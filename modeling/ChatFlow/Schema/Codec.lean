import ChatFlow.Schema.Checked
import ChatFlow.Number.Reading
/-
How typed data is read from values and written as values. Reading is lenient where a value has an
obvious meaning in the wanted type: a number written in a text, a truth value written as a word,
zero or one.
-/

namespace ChatFlow

/-- A way to read a type from values and to write it. -/
structure Codec (α : Type) where
  decode : Value → Checked α
  encode : α → Value

/-- A finite type whose values have words. -/
class Words (α : Type) where
  values : List α
  word : α → String

namespace Schema

open Text

/-! ### Lenient scalars -/

/-- Words for true and false. -/
def trueWords : List (List Char) := ["1", "on", "t", "true", "y", "yes"].map String.toList
def falseWords : List (List Char) := ["0", "off", "f", "false", "n", "no"].map String.toList

def decodeBool : Value → Checked Bool
  | .bool value => .accepted value
  | .str text =>
      let word := text.toList.map Number.asciiLower
      if trueWords.contains word then .accepted true
      else if falseWords.contains word then .accepted false
      else .reject .unreadableBoolean
  | .int value =>
      if value == 1 then .accepted true
      else if value == 0 then .accepted false
      else .reject .unreadableBoolean
  | .real value =>
      match value.toInt? with
      | some 1 => .accepted true
      | some 0 => .accepted false
      | some _ => .reject .unreadableBoolean
      | none => .reject .notBoolean
  | _ => .reject .notBoolean

/-- Digits with single low lines between them, as digits alone. -/
def plainDigits? (characters : List Char) : Option (List Char) := do
  let digits ← Number.dropDigitSeparators false characters
  if digits.isEmpty || !digits.all isAsciiDigit then none else some digits

/-- Whether digits start with a zero that could be left out. -/
def hasLeadingZero (digits : List Char) : Bool := digits.length > 1 && digits.head? == some '0'

/-- An integer written with an optional sign, and an optional point followed by zeros. No minus sign
stands before a leading zero. -/
def integerDigits? (characters : List Char) : Option (Bool × List Char) := do
  let (negative, unsigned) := Number.splitSign (trimBy isNumberBlank characters)
  let whole := unsigned.takeWhile (· != '.')
  let fraction := (unsigned.dropWhile (· != '.')).drop 1
  let digits ← plainDigits? whole
  if fraction.all (· == '0') && !(negative && hasLeadingZero digits) then some (negative, digits)
  else none

def decodeInt : Value → Checked Int
  | .int value => .accepted value
  | .bool value => .accepted (if value then 1 else 0)
  | .str text =>
      match integerDigits? text.toList with
      | none => .reject .unreadableInteger
      | some (negative, digits) =>
          if digits.length > maxNumeralDigits then .reject .integerTooLong
          else
            let size : Int := digitsValue digits
            .accepted (if negative then -size else size)
  | .real value =>
      match value with
      | .finite _ _ =>
          match value.toInt? with
          | none => .reject .fractionalInteger
          | some whole =>
              if whole.natAbs < Nat.pow 2 63 then .accepted whole else .reject .integerTooLong
      | _ => .reject .notFinite
  | _ => .reject .notInteger

/-- A real number written in basic Latin digits. -/
def readPlainReal? (characters : List Char) : Option Binary64 := do
  let (negative, magnitude) := Number.splitSign characters
  let word := magnitude.map Number.asciiLower
  if word == "inf".toList || word == "infinity".toList then some (.infinite negative)
  else if word == "nan".toList then some .nan
  else Number.unsignedReal? negative magnitude

/-- Whether every low line stands between two other characters. -/
def singleLowLines : (previousIsLowLine : Bool) → List Char → Bool
  | previousIsLowLine, [] => !previousIsLowLine
  | previousIsLowLine, character :: rest =>
      if character == '_' then !previousIsLowLine && singleLowLines true rest
      else singleLowLines false rest

def decodeReal : Value → Checked Binary64
  | .real value => .accepted value
  | .int value =>
      match Binary64.ofInt? value with
      | some value => .accepted value
      | none => .reject .notReal
  | .bool value => .accepted (Binary64.ofInt (if value then 1 else 0))
  | .str text =>
      let trimmed := trimBy isNumberBlank text.toList
      match readPlainReal? trimmed with
      | some value => .accepted value
      | none =>
          if singleLowLines true trimmed then
            match readPlainReal? (trimmed.filter (· != '_')) with
            | some value => .accepted value
            | none => .reject .unreadableReal
          else .reject .unreadableReal
  | _ => .reject .notReal

def decodeText : Value → Checked String
  | .str text => .accepted text
  | _ => .reject .notText

def decodeStamp : Value → Checked Stamp
  | .stamp value => .accepted value
  | .str text =>
      match Stamp.read? text.toList with
      | some stamp => .accepted stamp
      | none => .reject .unreadableStampOrDate
  | .int seconds =>
      match Stamp.ofEpoch? seconds 0 with
      | some stamp => .accepted stamp
      | none => .reject .unreadableStamp
  | .real seconds =>
      match Stamp.ofReal? seconds with
      | some stamp => .accepted stamp
      | none => .reject .unreadableStamp
  | _ => .reject .notStamp

/-! ### Parts of compound codecs -/

variable {α : Type}

def ofWord? [Words α] (word : String) : Option α :=
  (Words.values (α := α)).find? fun value => Words.word value == word

/-- Reads items from a position on; every item is read. -/
def decodeItems (codec : Codec α) : (position : Nat) → List Value → Checked (List α)
  | _, [] => .accepted []
  | position, value :: rest =>
      .both (((codec.decode value).under (.index position)).map List.cons)
        (decodeItems codec (position + 1) rest)

/-- Reads the value of every member. -/
def decodeMembers (codec : Codec α) : List (String × Value) → Checked (Table α)
  | [] => .accepted []
  | (name, value) :: rest =>
      .both (((codec.decode value).under (.name name)).map fun value entries =>
          (name, value) :: entries)
        (decodeMembers codec rest)

end Schema

namespace Codec

open Schema

variable {α : Type}

/-! ### Codecs of scalars -/

def text : Codec String := ⟨decodeText, .str⟩

def boolean : Codec Bool := ⟨decodeBool, .bool⟩

def integer : Codec Int := ⟨decodeInt, .int⟩

def real : Codec Binary64 := ⟨decodeReal, .real⟩

def stamp : Codec Stamp := ⟨decodeStamp, .stamp⟩

def anything : Codec Value := ⟨.accepted, id⟩

def nonEmptyText : Codec String :=
  ⟨fun value => (decodeText value).andThen fun text =>
      if text.isEmpty then .reject .tooShort else .accepted text, .str⟩

/-- A natural number not below a bound. -/
def naturalFrom (least : Nat) : Codec Nat :=
  ⟨fun value => (decodeInt value).andThen fun number =>
      if number < least then .reject .notAtLeast else .accepted number.toNat,
    fun number => .int number⟩

/-- A real number above a bound. -/
def realAbove (bound : Int) : Codec Binary64 :=
  ⟨fun value => (decodeReal value).andThen fun number =>
      if (Binary64.ofInt bound).lt number then .accepted number else .reject .notAbove, .real⟩

/-- A real number between two bounds, the bounds included. -/
def realBetween (least most : Int) : Codec Binary64 :=
  ⟨fun value => (decodeReal value).andThen fun number =>
      if !number.le (Binary64.ofInt most) then .reject .notAtMost
      else if !(Binary64.ofInt least).le number then .reject .notAtLeast
      else .accepted number, .real⟩

/-- One of a fixed set of words; the issue is of the given kind. -/
def word (α : Type) [Words α] (kind : IssueKind) : Codec α :=
  ⟨fun value => match value with
      | .str text => match ofWord? text with
        | some found => .accepted found
        | none => .reject kind
      | _ => .reject kind,
    fun value => .str (Words.word value)⟩

/-! ### Codecs of compound data -/

/-- Null, or a value of a type. -/
def optional (codec : Codec α) : Codec (Option α) :=
  ⟨fun value => match value with
      | .null => .accepted none
      | value => (codec.decode value).map some,
    fun value => (value.map codec.encode).getD .null⟩

def list (codec : Codec α) : Codec (List α) :=
  ⟨fun value => match value with
      | .arr items => decodeItems codec 0 items
      | _ => .reject .notList,
    fun items => .arr (items.map codec.encode)⟩

/-- A list of at most a number of items. -/
def listUpTo (most : Nat) (codec : Codec α) : Codec (List α) :=
  ⟨fun value => match value with
      | .arr items =>
          if items.length > most then .reject .tooLong else decodeItems codec 0 items
      | _ => .reject .notList,
    fun items => .arr (items.map codec.encode)⟩

/-- An object whose members all have one type. -/
def table (codec : Codec α) : Codec (Table α) :=
  ⟨fun value => match value with
      | .obj members => decodeMembers codec members
      | _ => .reject .notDictionary,
    fun entries => .obj (entries.map fun entry => (entry.1, codec.encode entry.2))⟩

/-- A table of texts: the variables of a session, for instance. -/
def textTable : Codec (Table String) := table text

def object : Codec (Table Value) := table anything

end Codec

namespace Schema

variable {α : Type}

/-! ### Records -/

def required (codec : Codec α) (name : String) (members : Table Value) : Checked α :=
  match Table.lookup? name members with
  | none => .rejected [⟨.missing, [.name name]⟩]
  | some value => (codec.decode value).under (.name name)

/-- A field with a value to take when it is absent. -/
def withDefault (codec : Codec α) (name : String) (absent : α) (members : Table Value) :
    Checked α :=
  match Table.lookup? name members with
  | none => .accepted absent
  | some value => (codec.decode value).under (.name name)

/-- Reads the members of an object; a value of another kind is an issue of the given kind. -/
def decodeRecord (kind : IssueKind) (decode : Table Value → Checked α) : Value → Checked α
  | .obj members => decode members
  | _ => .reject kind

/-- The members that are none of the named fields. -/
def extraMembers (fields : List String) (members : Table Value) : Table Value :=
  members.filter fun member => !fields.contains member.1

end Schema

end ChatFlow

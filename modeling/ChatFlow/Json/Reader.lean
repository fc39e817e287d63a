import ChatFlow.Value.Basic
import ChatFlow.Text.Digit
import ChatFlow.Number.Reading
/-
Reading JSON text. Beside the standard grammar the words `NaN`, `Infinity` and `-Infinity` are
numbers. A repeated member keeps its first place and its last value. An integer of more than 4300
digits is refused.
-/

namespace ChatFlow

/-- Why a text is not read as JSON. The place of a fault is counted in characters. -/
inductive JsonError where
  | malformed (place : Nat)
  | integerTooLong
  deriving DecidableEq, Repr

namespace Json

open Text

def isJsonBlank (character : Char) : Bool :=
  character == ' ' || character == '\t' || character == '\n' || character == '\r'

def skipBlanks (characters : List Char) : List Char := characters.dropWhile isJsonBlank

def hexValue? (character : Char) : Option Nat :=
  if isAsciiDigit character then some (character.toNat - 48)
  else if 'a' ≤ character && character ≤ 'f' then some (character.toNat - 87)
  else if 'A' ≤ character && character ≤ 'F' then some (character.toNat - 55)
  else none

/-- The code unit written by four hexadecimal digits. -/
def hexUnit? (a b c d : Char) : Option Nat := do
  some ((← hexValue? a) * 4096 + (← hexValue? b) * 256 + (← hexValue? c) * 16 + (← hexValue? d))

def isHighSurrogate (unit : Nat) : Bool := 0xD800 ≤ unit && unit < 0xDC00

def isLowSurrogate (unit : Nat) : Bool := 0xDC00 ≤ unit && unit < 0xE000

/-- The character of one code unit; half of a pair that stands alone becomes U+FFFD. -/
def unitChar (unit : Nat) : Char :=
  if 0xD800 ≤ unit && unit < 0xE000 then '\ufffd' else Char.ofNat unit

/-- The character that a single-letter escape stands for. -/
def simpleEscape? (character : Char) : Option Char :=
  match character with
  | '"' => some '"'
  | '\\' => some '\\'
  | '/' => some '/'
  | 'b' => some '\x08'
  | 'f' => some '\x0c'
  | 'n' => some '\n'
  | 'r' => some '\r'
  | 't' => some '\t'
  | _ => none

/-! ### Texts

A fault is told by how many characters are left where it is found; a text without an end is a fault
at its opening quote. -/

/-- Reads up to the closing quote; `opening` holds the characters from the opening quote on, and
`collected` the characters read, last first. -/
def readQuoted (opening collected : List Char) :
    List Char → Except JsonError (String × List Char)
  | [] => .error (.malformed opening.length)
  | '"' :: rest => .ok (String.ofList collected.reverse, rest)
  | ['\\'] => .error (.malformed opening.length)
  | '\\' :: 'u' :: a :: b :: c :: d :: '\\' :: 'u' :: e :: f :: g :: h :: rest =>
      match hexUnit? a b c d with
      | none => .error (.malformed (rest.length + 11))
      | some unit =>
          match hexUnit? e f g h with
          | none => .error (.malformed (rest.length + 5))
          | some next =>
              if rest.isEmpty then .error (.malformed 5)
              else if isHighSurrogate unit && isLowSurrogate next then
                let code := 0x10000 + (unit - 0xD800) * 1024 + (next - 0xDC00)
                readQuoted opening (Char.ofNat code :: collected) rest
              else if isHighSurrogate next then
                -- the second unit may begin a pair of its own
                readQuoted opening (unitChar unit :: collected)
                  ('\\' :: 'u' :: e :: f :: g :: h :: rest)
              else readQuoted opening (unitChar next :: unitChar unit :: collected) rest
  | '\\' :: 'u' :: a :: b :: c :: d :: rest =>
      match hexUnit? a b c d with
      | none => .error (.malformed (rest.length + 5))
      | some unit =>
          if rest.isEmpty then .error (.malformed 5)
          else readQuoted opening (unitChar unit :: collected) rest
  | '\\' :: mark :: rest =>
      match simpleEscape? mark with
      | none => .error (.malformed (if mark == 'u' then rest.length + 1 else rest.length + 2))
      | some character => readQuoted opening (character :: collected) rest
  | character :: rest =>
      if character.toNat < 32 then .error (.malformed (rest.length + 1))
      else readQuoted opening (character :: collected) rest
  termination_by characters => characters.length

/-! ### Numbers and words -/

def afterWord? : (word characters : List Char) → Option (List Char)
  | [], characters => some characters
  | _ :: _, [] => none
  | expected :: word, character :: rest =>
      if expected = character then afterWord? word rest else none

/-- The exponent part of a number, with the characters after it. -/
def readExponent (characters : List Char) : Option Int × List Char :=
  match characters with
  | mark :: rest =>
      if mark == 'e' || mark == 'E' then
        let (negative, afterSign) := Number.splitSign rest
        let (digits, remaining) := afterSign.span isAsciiDigit
        if digits.isEmpty then (none, characters)
        else
          let size : Int := digitsValue digits
          (some (if negative then -size else size), remaining)
      else (none, characters)
  | [] => (none, [])

/-- A number without its sign; `start` holds the characters from its start on. -/
def readMagnitude (start : List Char) (negative : Bool) (characters : List Char) :
    Except JsonError (Value × List Char) :=
  let (whole, afterWhole) := match characters with
    | '0' :: rest => (['0'], rest)
    | _ => characters.span isAsciiDigit
  if whole.isEmpty then .error (.malformed start.length)
  else
    let (fraction, afterFraction) := match afterWhole with
      | '.' :: rest =>
          let (digits, remaining) := rest.span isAsciiDigit
          if digits.isEmpty then ([], afterWhole) else (digits, remaining)
      | _ => ([], afterWhole)
    let (exponent, remaining) := readExponent afterFraction
    if fraction.isEmpty && exponent.isNone then
      if whole.length > maxNumeralDigits then .error .integerTooLong
      else
        let size : Int := digitsValue whole
        .ok (.int (if negative then -size else size), remaining)
    else
      let digits := whole ++ fraction
      .ok (.real (Binary64.ofDecimal negative (digitsValue digits) digits.length
        (exponent.getD 0 - fraction.length)), remaining)

/-- A value that is no container: a word, a text or a number. -/
def readScalar (characters : List Char) : Except JsonError (Value × List Char) :=
  match characters with
  | '"' :: rest =>
      (readQuoted characters [] rest).map fun (text, remaining) => (.str text, remaining)
  | '-' :: rest =>
      match afterWord? "Infinity".toList rest with
      | some remaining => .ok (.real (.infinite true), remaining)
      | none => readMagnitude characters true rest
  | _ =>
      match afterWord? "null".toList characters, afterWord? "true".toList characters,
          afterWord? "false".toList characters, afterWord? "NaN".toList characters,
          afterWord? "Infinity".toList characters with
      | some remaining, _, _, _, _ => .ok (.null, remaining)
      | _, some remaining, _, _, _ => .ok (.bool true, remaining)
      | _, _, some remaining, _, _ => .ok (.bool false, remaining)
      | _, _, _, some remaining, _ => .ok (.real .nan, remaining)
      | _, _, _, _, some remaining => .ok (.real (.infinite false), remaining)
      | _, _, _, _, _ => readMagnitude characters false characters

mutual

/-- Reads one value; the first argument bounds the number of steps. -/
def readValue : Nat → List Char → Except JsonError (Value × List Char)
  | 0, characters => .error (.malformed characters.length)
  | steps + 1, '[' :: rest =>
      match skipBlanks rest with
      | ']' :: remaining => .ok (.arr [], remaining)
      | characters => readItems steps [] characters
  | steps + 1, '\x7b' :: rest =>
      match skipBlanks rest with
      | '\x7d' :: remaining => .ok (.obj [], remaining)
      | characters => readMembers steps [] characters
  | _ + 1, characters => readScalar characters

/-- Reads the items of an array up to its closing bracket; those read stand last first. -/
def readItems : Nat → List Value → List Char → Except JsonError (Value × List Char)
  | 0, _, characters => .error (.malformed characters.length)
  | steps + 1, items, characters => do
      let (item, afterItem) ← readValue steps characters
      match skipBlanks afterItem with
      | ',' :: rest => readItems steps (item :: items) (skipBlanks rest)
      | ']' :: rest => .ok (.arr (item :: items).reverse, rest)
      | rest => .error (.malformed rest.length)

/-- Reads the members of an object up to its closing brace. -/
def readMembers : Nat → List (String × Value) → List Char → Except JsonError (Value × List Char)
  | 0, _, characters => .error (.malformed characters.length)
  | steps + 1, members, '"' :: characters => do
      let (name, afterName) ← readQuoted ('"' :: characters) [] characters
      match skipBlanks afterName with
      | ':' :: afterColon => do
          let (value, afterValue) ← readValue steps (skipBlanks afterColon)
          let members := Table.put name value members
          match skipBlanks afterValue with
          | ',' :: rest => readMembers steps members (skipBlanks rest)
          | '\x7d' :: rest => .ok (.obj members, rest)
          | rest => .error (.malformed rest.length)
      | rest => .error (.malformed rest.length)
  | _ + 1, _, characters => .error (.malformed characters.length)

end

/-- Reads one value with nothing but blanks after it. -/
def readLeading (characters : List Char) : Except JsonError Value := do
  let (value, remaining) ← readValue (2 * characters.length + 2) (skipBlanks characters)
  match skipBlanks remaining with
  | [] => return value
  | rest => .error (.malformed rest.length)

/-- Reads a whole text as one JSON value, blanks around it allowed. A fault has its place counted
from the start. -/
def read (characters : List Char) : Except JsonError Value :=
  (readLeading characters).mapError fun fault =>
    match fault with
    | .malformed left => .malformed (characters.length - left)
    | .integerTooLong => .integerTooLong

def ofText (text : String) : Except JsonError Value := read text.toList

end Json

end ChatFlow

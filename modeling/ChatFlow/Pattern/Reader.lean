import ChatFlow.Pattern.Width
import ChatFlow.Number.Reading
import ChatFlow.Text.Name
import ChatFlow.Text.Word
import ChatFlow.Json.Reader
/-
Reading a pattern. The pattern is split into single characters and escapes, of which one is looked
at ahead; an escape without a character after it is refused as soon as it is looked at.
-/

namespace ChatFlow.PatternReader

open Text

/-- A single character, a character after a backslash, or a backslash at the end. -/
inductive Token where
  | plain (character : Char)
  | escaped (character : Char)
  | lone
  deriving DecidableEq, Repr

def tokens : List Char → List Token
  | [] => []
  | ['\\'] => [.lone]
  | '\\' :: character :: rest => .escaped character :: tokens rest
  | character :: rest => .plain character :: tokens rest

/-- The state of reading: what is left, the widths of the groups (none while a group is open), the
names of groups, the switches, the groups that stood before a look behind, and the groups that
conditions name. -/
structure State where
  rest : List Token
  groups : List (Option PatternPart.Width)
  names : List (List Char × Nat)
  flags : PatternFlags
  behind : Option Nat
  conditions : List Nat

abbrev Reader (α : Type) := StateT State (Except PatternError) α

def refuse {α : Type} : Reader α := throw .refused

def setRest (rest : List Token) : Reader Unit := do
  if rest.head? == some .lone then refuse else modify fun state => { state with rest }

def next : Reader (Option Token) := do return (← get).rest.head?

/-- Takes the token looked at. -/
def take : Reader (Option Token) := do
  match (← get).rest with
  | [] => return none
  | token :: rest => do
      setRest rest
      return some token

/-- Takes a plain character if it is the token looked at. -/
def takeIf (character : Char) : Reader Bool := do
  match (← get).rest with
  | .plain found :: rest => if found = character then do setRest rest; return true else return false
  | _ => return false

/-- Takes at most a number of plain characters that satisfy a test. -/
def takeWhile (test : Char → Bool) : Nat → Reader (List Char)
  | 0 => return []
  | count + 1 => do
      match (← get).rest with
      | .plain found :: rest =>
          if test found then do
            setRest rest
            return found :: (← takeWhile test count)
          else return []
      | _ => return []

/-- The characters up to a closing one, which is taken too; there must be some. An escape counts as
the two characters it is written with. -/
def takeUntil (closing : Char) : Nat → Reader (List Char)
  | 0 => refuse
  | steps + 1 => do
      match ← take with
      | none => refuse
      | some (.plain found) =>
          if found = closing then return [] else return found :: (← takeUntil closing steps)
      | some (.escaped found) => return '\\' :: found :: (← takeUntil closing steps)
      | some .lone => refuse

def takeName (closing : Char) : Reader (List Char) := do
  let name ← takeUntil closing ((← get).rest.length + 1)
  if name.isEmpty then refuse else return name

def isOctalDigit (character : Char) : Bool := '0' ≤ character && character ≤ '7'

def isHexDigit (character : Char) : Bool := (Json.hexValue? character).isSome

/-- The number written by digits of a base. -/
def baseValue (base : Nat) (digits : List Char) : Nat :=
  digits.foldl (fun total digit => base * total + (Json.hexValue? digit).getD 0) 0

/-! ### Escapes -/

/-- The character of an escape that stands for one. -/
def controlEscape? : Char → Option Nat
  | 'a' => some 7
  | 'f' => some 12
  | 'n' => some 10
  | 'r' => some 13
  | 't' => some 9
  | 'v' => some 11
  | '\\' => some 92
  | _ => none

def classEscape? : Char → Option CharacterClass
  | 'd' => some .digit
  | 'D' => some .notDigit
  | 's' => some .space
  | 'S' => some .notSpace
  | 'w' => some .word
  | 'W' => some .notWord
  | _ => none

def placeEscape? : Char → Option Place
  | 'A' => some .textStart
  | 'b' => some .boundary
  | 'B' => some .notBoundary
  | 'Z' => some .textEnd
  | _ => none

/-- Exactly a number of hexadecimal digits. -/
def takeHex (count : Nat) : Reader Nat := do
  let digits ← takeWhile isHexDigit count
  if digits.length = count then return baseValue 16 digits else refuse

/-- The character of an escape that is written the same inside and outside a set; `none` for the
others. -/
def commonEscape? (letter : Char) : Reader (Option Nat) := do
  if letter = 'x' then return some (← takeHex 2)
  else if letter = 'u' then return some (← takeHex 4)
  else if letter = 'U' then do
    let code ← takeHex 8
    if code < 0x110000 then return some code else refuse
  else if letter = 'N' then refuse
  else if isAsciiLetter letter then refuse
  else return none

/-- An octal escape of up to three digits, the first of which is given. -/
def octalValue (digits : List Char) : Reader Nat := do
  let code := baseValue 8 digits
  if code > 0o377 then refuse else return code

/-- An escape inside a set: one character, or a class. -/
def setEscape (letter : Char) : Reader SetItem := do
  if letter = 'b' then return .one 8
  else match controlEscape? letter, classEscape? letter with
    | some code, _ => return .one code
    | _, some cls => return .cls cls
    | none, none =>
        if isOctalDigit letter then
          return .one (← octalValue (letter :: (← takeWhile isOctalDigit 2)))
        else if isAsciiDigit letter then refuse
        else return .one ((← commonEscape? letter).getD letter.toNat)

/-- Whether a group has been opened and closed. -/
def isClosed (group : Nat) : Reader Bool := do
  return (((← get).groups[group]?).getD none).isSome

/-- Inside a look behind, only groups that were closed before it may be referred to. -/
def checkBehind (group : Nat) : Reader Unit := do
  match (← get).behind with
  | none => return ()
  | some bound => if !(← isClosed group) || group ≥ bound then refuse else return ()

/-- A reference to a group that has been closed. -/
def reference (group : Nat) : Reader PatternPart := do
  if group < (← get).groups.length && (← isClosed group) then do
    checkBehind group
    return .backreference group
  else refuse

/-- An escape that starts with a digit other than zero: three octal digits, or a reference. -/
def digitEscape (first : Char) : Reader PatternPart := do
  match ← takeWhile isAsciiDigit 1 with
  | [second] =>
      if isOctalDigit first && isOctalDigit second then
        match ← takeWhile isOctalDigit 1 with
        | [third] => return .literal false (← octalValue [first, second, third])
        | _ => reference (digitsValue [first, second])
      else reference (digitsValue [first, second])
  | _ => reference (digitsValue [first])

def escape (letter : Char) : Reader PatternPart := do
  match classEscape? letter, placeEscape? letter, controlEscape? letter with
  | some cls, _, _ => return .set false [.cls cls]
  | _, some place, _ => return .place place
  | _, _, some code => return .literal false code
  | none, none, none =>
      if letter = '0' then
        return .literal false (baseValue 8 (letter :: (← takeWhile isOctalDigit 2)))
      else if isAsciiDigit letter then digitEscape letter
      else return .literal false ((← commonEscape? letter).getD letter.toNat)

/-! ### Sets -/

/-- One end of a range, or a single member of a set. -/
def setMember (token : Token) : Reader SetItem :=
  match token with
  | .plain character => return .one character.toNat
  | .escaped letter => setEscape letter
  | .lone => refuse

/-- The members of a set up to its closing bracket; those read stand last first. -/
def setItems (items : List SetItem) : Nat → Reader (List SetItem)
  | 0 => refuse
  | steps + 1 => do
      match ← take with
      | none => refuse
      | some token =>
          if token = .plain ']' && !items.isEmpty then return items.reverse
          else do
            let first ← setMember token
            if ← takeIf '-' then
              match ← take with
              | none => refuse
              | some (.plain ']') => return (.one '-'.toNat :: first :: items).reverse
              | some last => do
                  match first, ← setMember last with
                  | .one low, .one high =>
                      if high < low then refuse else setItems (.range low high :: items) steps
                  | _, _ => refuse
            else setItems (first :: items) steps

/-- A list without repetitions, in the order of first occurrence. -/
def distinct (items : List SetItem) : List SetItem :=
  (items.foldl (fun kept item => if kept.contains item then kept else item :: kept) []).reverse

/-- A set, after its opening bracket. -/
def readSet : Reader PatternPart := do
  let negated ← takeIf '^'
  let items ← setItems [] ((← get).rest.length + 1)
  match distinct items with
  | [.one code] => return .literal negated code
  | items => return .set negated items

/-! ### Repetition -/

/-- Counts from this one on are refused. -/
def repetitionBound : Nat := 4294967295

def readCount (digits : List Char) : Reader Nat := do
  if digits.length > maxNumeralDigits then throw .unreadable
  else
    let count := digitsValue digits
    if count ≥ repetitionBound then throw .repetitionTooLarge else return count

/-- The bounds of a repetition in braces, after the opening brace; `none` when the brace is an
ordinary character. -/
def readBounds : Reader (Option (Nat × Option Nat)) := do
  let before := (← get).rest
  if (← next) == some (.plain '\x7d') then return none
  else
    let low ← takeWhile isAsciiDigit before.length
    let comma ← takeIf ','
    let high ← if comma then takeWhile isAsciiDigit before.length else pure low
    if !(← takeIf '\x7d') then do
      setRest before
      return none
    else
      let least ← if low.isEmpty then pure 0 else readCount low
      let most ← if high.isEmpty then pure none else some <$> readCount high
      match most with
      | some most => if most < least then refuse else return some (least, some most)
      | none => return some (least, none)

/-- The mark after a repetition that says how it gives back. -/
def readStyle : Reader RepeatStyle := do
  if ← takeIf '?' then return .lazy
  else if ← takeIf '+' then return .possessive
  else return .greedy

/-- Repeats the last of the parts read, which stand last first. -/
def repeatLast (least : Nat) (most : Option Nat) (parts : List PatternPart) :
    Reader (List PatternPart) := do
  match parts with
  | [] => refuse
  | .place _ :: _ => refuse
  | .iterate .. :: _ => refuse
  | last :: others => do
      let body := match last with
        | .group none added removed body =>
            if added == {} && removed == {} then body else [last]
        | _ => [last]
      return .iterate (← readStyle) least most body :: others

/-! ### Switches -/

/-- Sets the switch of a letter. -/
def setFlag? (letter : Char) (flags : PatternFlags) : Option PatternFlags :=
  match letter with
  | 'i' => some { flags with ignoreCase := true }
  | 'm' => some { flags with multiline := true }
  | 's' => some { flags with dotAll := true }
  | 'x' => some { flags with verbose := true }
  | 'a' => some { flags with ascii := true }
  | 'u' => some { flags with unicode := true }
  | 't' => some { flags with template := true }
  | _ => none

def isFlagLetter (letter : Char) : Bool := letter = 'L' || (setFlag? letter {}).isSome

/-- Switches turned on, from a given letter up to the mark that ends them. -/
def readAdded (flags : PatternFlags) (letter : Char) : Nat → Reader (PatternFlags × Char)
  | 0 => refuse
  | steps + 1 => do
      match setFlag? letter flags with
      | none => refuse
      | some flags =>
          if flags.ascii && flags.unicode then refuse
          else match ← take with
            | some (.plain mark) =>
                if mark = ')' || mark = '-' || mark = ':' then return (flags, mark)
                else readAdded flags mark steps
            | _ => refuse

/-- Switches turned off, from a given letter up to the colon. -/
def readRemoved (flags : PatternFlags) (letter : Char) : Nat → Reader PatternFlags
  | 0 => refuse
  | steps + 1 => do
      match setFlag? letter flags with
      | none => refuse
      | some flags =>
          if flags.ascii || flags.unicode then refuse
          else match ← take with
            | some (.plain mark) =>
                if mark = ':' then return flags else readRemoved flags mark steps
            | _ => refuse

/-- The union of two sets of switches. -/
def joinFlags (first second : PatternFlags) : PatternFlags :=
  { ignoreCase := first.ignoreCase || second.ignoreCase
    multiline := first.multiline || second.multiline
    dotAll := first.dotAll || second.dotAll
    verbose := first.verbose || second.verbose
    ascii := first.ascii || second.ascii
    unicode := first.unicode || second.unicode
    template := first.template || second.template }

/-- Whether two sets of switches have one in common. -/
def flagsMeet (first second : PatternFlags) : Bool :=
  (first.ignoreCase && second.ignoreCase) || (first.multiline && second.multiline) ||
    (first.dotAll && second.dotAll) || (first.verbose && second.verbose)

/-- Switches after `(?`: none of a group when they hold for the whole pattern, or else those turned
on and those turned off in a group. -/
def readFlags (letter : Char) : Reader (Option (PatternFlags × PatternFlags)) := do
  let steps := (← get).rest.length + 1
  let (added, mark) ← if letter = '-' then pure (({} : PatternFlags), '-')
    else readAdded {} letter steps
  if mark = ')' then do
    modify fun state => { state with flags := joinFlags state.flags added }
    return none
  else if added.template then refuse
  else if mark = ':' then return some (added, {})
  else
    match ← take with
    | some (.plain first) => do
        let removed ← readRemoved {} first steps
        if removed.template || flagsMeet added removed then refuse
        else return some (added, removed)
    | _ => refuse

/-! ### Groups -/

/-- Opens a group, and gives its number. -/
def openGroup (name : Option (List Char)) : Reader Nat := do
  let state ← get
  let number := state.groups.length
  match name with
  | none => set { state with groups := state.groups ++ [none] }
  | some name =>
      if state.names.any fun entry => entry.1 == name then refuse
      else
        set { state with
          groups := state.groups ++ [none]
          names := (name, number) :: state.names }
  return number

def closeGroup (number : Nat) (body : List PatternPart) : Reader Unit :=
  modify fun state =>
    let width := PatternPart.capWidth (PatternPart.widthSum state.groups body)
    { state with groups := state.groups.set number (some width) }

def namedGroup? (name : List Char) : Reader (Option Nat) := do
  return ((← get).names.find? fun entry => entry.1 == name).map Prod.snd

/-- The group that a condition names, by its name or by its number. -/
def conditionGroup : Reader Nat := do
  let name ← takeName ')'
  if isName name then
    match ← namedGroup? name with
    | some group => do
        checkBehind group
        return group
    | none => refuse
  else
    match Number.readInt? name with
    | some number =>
        if number ≤ 0 || number ≥ 1073741823 then refuse
        else do
          modify fun state => { state with conditions := number.toNat :: state.conditions }
          checkBehind number.toNat
          return number.toNat
    | none => refuse

/-- Skips a comment, its closing parenthesis included. -/
def skipComment : Nat → Reader Unit
  | 0 => refuse
  | steps + 1 => do
      match ← take with
      | none => refuse
      | some token => if token = .plain ')' then return () else skipComment steps

def skipLine : Nat → Reader Unit
  | 0 => return ()
  | steps + 1 => do
      match ← take with
      | none => return ()
      | some token => if token = .plain '\n' then return () else skipLine steps

def expect (character : Char) : Reader Unit := do
  if ← takeIf character then return () else refuse

/-- What kind of group an opening parenthesis opens. -/
inductive Opening where
  | part (part : PatternPart)
  | nothing
  | global
  | capture (name : Option (List Char))
  | plain
  | atomic
  | flagged (added removed : PatternFlags)
  | ahead (negated : Bool)
  | behind (negated : Bool)
  | condition

/-- What follows an opening parenthesis, up to the body of the group. -/
def opening : Reader Opening := do
  if !(← takeIf '?') then return .capture none
  else match ← take with
    | some (.plain 'P') => do
        if ← takeIf '<' then do
          let name ← takeName '>'
          if isName name then return .capture (some name) else refuse
        else if ← takeIf '=' then do
          let name ← takeName ')'
          match ← namedGroup? name with
          | some group => if isName name then return .part (← reference group) else refuse
          | none => refuse
        else refuse
    | some (.plain ':') => return .plain
    | some (.plain '#') => do
        skipComment ((← get).rest.length + 1)
        return .nothing
    | some (.plain '=') => return .ahead false
    | some (.plain '!') => return .ahead true
    | some (.plain '<') => do
        match ← take with
        | some (.plain '=') => return .behind false
        | some (.plain '!') => return .behind true
        | _ => refuse
    | some (.plain '(') => return .condition
    | some (.plain '>') => return .atomic
    | some (.plain letter) =>
        if isFlagLetter letter || letter = '-' then do
          match ← readFlags letter with
          | none => return .global
          | some (added, removed) => return .flagged added removed
        else refuse
    | _ => refuse

/-! ### Sequences and choices -/

/-- Parts that may be compared: those that hold no other parts. -/
def sameSimple : PatternPart → PatternPart → Bool
  | .literal negated code, .literal negated' code' => negated == negated' && code == code'
  | .anyCharacter, .anyCharacter => true
  | .set negated items, .set negated' items' => negated == negated' && items == items'
  | .place place, .place place' => place == place'
  | .backreference number, .backreference number' => number == number'
  | _, _ => false

/-- The part that every alternative starts with, if there is one. -/
def commonFirst? (alternatives : List (List PatternPart)) : Option PatternPart :=
  match alternatives with
  | (first :: _) :: rest =>
      if rest.all fun parts => (parts.head?.map (sameSimple first)).getD false then some first
      else none
  | _ => none

/-- Takes the common parts at the start out of the alternatives. -/
def splitCommon : Nat → List (List PatternPart) → List PatternPart × List (List PatternPart)
  | 0, alternatives => ([], alternatives)
  | steps + 1, alternatives =>
      match commonFirst? alternatives with
      | none => ([], alternatives)
      | some first =>
          let (common, rest) := splitCommon steps (alternatives.map (·.drop 1))
          (first :: common, rest)

/-- The members of the set that an alternative is, if it is one. -/
def asSetItems? : List PatternPart → Option (List SetItem)
  | [.literal false code] => some [.one code]
  | [.set false items] => some items
  | _ => none

/-- The parts of a choice between alternatives. -/
def choice (alternatives : List (List PatternPart)) : List PatternPart :=
  match alternatives with
  | [parts] => parts
  | _ =>
      let steps := (alternatives.map List.length).foldl max 0 + 1
      let (common, rest) := splitCommon steps alternatives
      match rest.mapM asSetItems? with
      | some sets => common ++ [.set false (distinct sets.flatten)]
      | none => common ++ [.branch rest]

/-- Groups without a number and without switches, replaced by their bodies. -/
def inlinePlain (parts : List PatternPart) : List PatternPart :=
  parts.flatMap fun part =>
    match part with
    | .group none added removed body => if added == {} && removed == {} then body else [part]
    | _ => [part]

def isPatternBlank (character : Char) : Bool :=
  character == ' ' || ('\t' ≤ character && character ≤ '\r')

mutual

/-- Reads alternatives; `top` holds outside all parentheses. -/
def readChoice : Nat → (top verbose : Bool) → Reader (List PatternPart)
  | 0, _, _ => refuse
  | steps + 1, top, verbose => do
      let first ← readSequence steps top verbose []
      let others ← readAlternatives steps top verbose
      return choice (first :: others)

/-- Reads the alternatives after the first one. -/
def readAlternatives : Nat → (top verbose : Bool) → Reader (List (List PatternPart))
  | 0, _, _ => refuse
  | steps + 1, top, verbose => do
      if ← takeIf '|' then do
        let overall := (← get).flags.verbose
        let verbose := if top then overall else verbose
        let parts ← readSequence steps false verbose []
        return parts :: (← readAlternatives steps top verbose)
      else return []

/-- Reads parts up to the end of an alternative; those read stand last first. Switches for the whole
pattern may stand only at its very start. -/
def readSequence : Nat → (first verbose : Bool) → List PatternPart → Reader (List PatternPart)
  | 0, _, _, _ => refuse
  | steps + 1, first, verbose, parts => do
      match ← next with
      | none => return inlinePlain parts.reverse
      | some (.plain '|') => return inlinePlain parts.reverse
      | some (.plain ')') => return inlinePlain parts.reverse
      | some .lone => refuse
      | some (.escaped letter) => do
          discard take
          readSequence steps first verbose ((← escape letter) :: parts)
      | some (.plain character) => do
          discard take
          if verbose && isPatternBlank character then readSequence steps first verbose parts
          else if verbose && character = '#' then do
            skipLine ((← get).rest.length + 1)
            readSequence steps first verbose parts
          else match character with
            | '[' => readSequence steps first verbose ((← readSet) :: parts)
            | '.' => readSequence steps first verbose (.anyCharacter :: parts)
            | '^' => readSequence steps first verbose (.place .lineStart :: parts)
            | '$' => readSequence steps first verbose (.place .lineEnd :: parts)
            | '?' => readSequence steps first verbose (← repeatLast 0 (some 1) parts)
            | '*' => readSequence steps first verbose (← repeatLast 0 none parts)
            | '+' => readSequence steps first verbose (← repeatLast 1 none parts)
            | '\x7b' => do
                match ← readBounds with
                | none => readSequence steps first verbose (.literal false character.toNat :: parts)
                | some (least, most) =>
                    readSequence steps first verbose (← repeatLast least most parts)
            | '(' => do
                match ← opening with
                | .part part => readSequence steps first verbose (part :: parts)
                | .nothing => readSequence steps first verbose parts
                | .global => do
                    let verbose := (← get).flags.verbose
                    if !first || !parts.isEmpty then refuse
                    else readSequence steps first verbose parts
                | kind => do
                    let part ← readGroup steps verbose kind
                    readSequence steps first verbose (part :: parts)
            | _ => readSequence steps first verbose (.literal false character.toNat :: parts)

/-- Reads the body of a group and its closing parenthesis. -/
def readGroup : Nat → (verbose : Bool) → Opening → Reader PatternPart
  | 0, _, _ => refuse
  | steps + 1, verbose, kind => do
      match kind with
      | .capture name => do
          let number ← openGroup name
          let body ← readChoice steps false verbose
          expect ')'
          closeGroup number body
          return .group (some number) {} {} body
      | .atomic => do
          let body ← readChoice steps false verbose
          expect ')'
          return .atomic body
      | .flagged added removed => do
          let verbose := (verbose || added.verbose) && !removed.verbose
          let body ← readChoice steps false verbose
          expect ')'
          return .group none added removed body
      | .ahead negated => do
          let body ← readChoice steps false verbose
          expect ')'
          return .lookAhead negated body
      | .behind negated => do
          let before := (← get).behind
          if before.isNone then
            modify fun state => { state with behind := some state.groups.length }
          let body ← readChoice steps false verbose
          if before.isNone then modify fun state => { state with behind := none }
          expect ')'
          let (low, high) := PatternPart.capWidth (PatternPart.widthSum (← get).groups body)
          let width := if low = high && low < Nat.pow 2 32 then some low else none
          return .lookBehind negated width body
      | .condition => do
          let group ← conditionGroup
          let present ← readSequence steps false verbose []
          let absent ← if ← takeIf '|' then readSequence steps false verbose [] else pure []
          if (← next) == some (.plain '|') then refuse
          expect ')'
          return .conditional group present absent
      | _ => do
          let body ← readChoice steps false verbose
          expect ')'
          return .group none {} {} body

end

/-- Reads all of a pattern that ignores case unless it says otherwise. -/
def readAll (steps : Nat) : Reader (List PatternPart) := do
  setRest (← get).rest
  let parts ← readChoice steps true false
  let state ← get
  if state.flags.ascii && state.flags.unicode then throw .unreadable
  if !state.rest.isEmpty then refuse
  if state.conditions.any (· ≥ state.groups.length) then refuse
  if !PatternPart.haveFixedLookBehinds parts then refuse
  if state.flags.template && PatternPart.anyRepeats parts then refuse
  return parts

end PatternReader

namespace Pattern

/-- Reads a pattern that ignores case. -/
def read (characters : List Char) : Except PatternError Pattern := do
  let tokens := PatternReader.tokens characters
  let start : PatternReader.State :=
    { rest := tokens
      groups := [none]
      names := []
      flags := { ignoreCase := true }
      behind := none
      conditions := [] }
  let (parts, state) ← (PatternReader.readAll (4 * tokens.length + 8)).run start
  return { flags := state.flags, parts }

end Pattern

end ChatFlow

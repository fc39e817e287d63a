import ChatFlow.Variable.Bag
import ChatFlow.Text.Blank
import ChatFlow.Text.Word
import ChatFlow.Value.Basic
/-
Placeholders in texts. `{name}` and `{{name}}`, with optional blanks around the name, stand for the
variable of that name; an unknown name stands for the empty text. Placeholders in double braces are
replaced first, and those in single braces afterwards, in the text that the first pass leaves.
-/

namespace ChatFlow.Interpolation

open Text

def openBrace : Char := '\x7b'
def closeBrace : Char := '\x7d'

def isNameCharacter (character : Char) : Bool :=
  isWordCharacter character || character == '.' || character == '-'

/-- The characters after a number of copies of one character. -/
def afterCopies? (mark : Char) : Nat → List Char → Option (List Char)
  | 0, characters => some characters
  | _ + 1, [] => none
  | count + 1, character :: rest => if character = mark then afterCopies? mark count rest else none

/-- The name of a placeholder with the given number of braces at the start of the characters, and
the characters after the placeholder. -/
def placeholder? (braces : Nat) (characters : List Char) : Option (List Char × List Char) := do
  let inside := (← afterCopies? openBrace braces characters).dropWhile isBlank
  let name := inside.takeWhile isNameCharacter
  if name.isEmpty then none
  else
    let afterName := (inside.dropWhile isNameCharacter).dropWhile isBlank
    some (name, ← afterCopies? closeBrace braces afterName)

/-- Replaces the placeholders with a number of braces, from left to right; `skipped` characters at
the start belong to a placeholder that has been replaced. -/
def replaceFrom (braces : Nat) (textOf : String → String) : (skipped : Nat) → List Char → List Char
  | _, [] => []
  | skipped + 1, _ :: rest => replaceFrom braces textOf skipped rest
  | 0, character :: rest =>
      match placeholder? braces (character :: rest) with
      | some (name, remaining) =>
          (textOf (String.ofList name)).toList ++
            replaceFrom braces textOf (rest.length - remaining.length) rest
      | none => character :: replaceFrom braces textOf 0 rest

/-- Replaces every placeholder with a number of braces. -/
def replaceBraces (braces : Nat) (bag : Variables) (characters : List Char) : List Char :=
  replaceFrom braces bag.textOf 0 characters

/-- A text with its placeholders replaced. -/
def interpolate (bag : Variables) (text : String) : String :=
  String.ofList (replaceBraces 1 bag (replaceBraces 2 bag text.toList))

/-- An absent text counts as empty. -/
def interpolate? (bag : Variables) (text : Option String) : String :=
  interpolate bag (text.getD "")

mutual

/-- Replaces the placeholders of every text inside a value, names of members included. Members
whose names become equal keep the first place and the last value. -/
def interpolateValue (bag : Variables) : Value → Value
  | .str text => .str (interpolate bag text)
  | .arr items => .arr (interpolateItems bag items)
  | .obj members => .obj (Table.ofSettings (interpolateMembers bag members))
  | value => value

def interpolateItems (bag : Variables) : List Value → List Value
  | [] => []
  | value :: rest => interpolateValue bag value :: interpolateItems bag rest

def interpolateMembers (bag : Variables) : List (String × Value) → List (String × Value)
  | [] => []
  | (name, value) :: rest =>
      (interpolate bag name, interpolateValue bag value) ::
        interpolateMembers bag rest

end

/-- The variable that a written name stands for: blanks and braces around the name are dropped. -/
def variableText (bag : Variables) (written : String) : String :=
  if written.isEmpty then ""
  else
    let isBrace (character : Char) : Bool := character == openBrace || character == closeBrace
    bag.textOf
      (String.ofList (trimBlanks (trimBy isBrace (trimBlanks written.toList))))

end ChatFlow.Interpolation

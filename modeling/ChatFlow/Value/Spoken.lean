import ChatFlow.Json.Printer
import ChatFlow.Text.PrintableTable
import ChatFlow.Text.Ranges
/-
Values inside running text: a text stands as it is, the absent value is `None`, truth values have
capitals, and lists and objects are bracketed with their texts in quotes.
-/

namespace ChatFlow.Value

open Text

def isPrintable (character : Char) : Bool := inRanges character.toNat printableRanges

/-- Some hexadecimal digits of a number. -/
def hexDigits : (count : Nat) → Nat → List Char
  | 0, _ => []
  | count + 1, value => hexDigits count (value / 16) ++ [Json.hexDigit (value % 16)]

/-- The form of a character inside quotes of a kind. -/
def spokenChar (quote character : Char) : List Char :=
  let code := character.toNat
  if character = quote || character = '\\' then ['\\', character]
  else if character = '\n' then ['\\', 'n']
  else if character = '\r' then ['\\', 'r']
  else if character = '\t' then ['\\', 't']
  else if isPrintable character then [character]
  else if code < 0x100 then '\\' :: 'x' :: hexDigits 2 code
  else if code < 0x10000 then '\\' :: 'u' :: hexDigits 4 code
  else '\\' :: 'U' :: hexDigits 8 code

/-- A text in single quotes, or in double quotes when it holds single ones only. -/
def spokenText (text : List Char) : List Char :=
  let quote := if text.contains '\'' && !text.contains '"' then '"' else '\''
  quote :: text.flatMap (spokenChar quote) ++ [quote]

def spokenReal (value : Binary64) : List Char := value.toText ['n', 'a', 'n'] ['i', 'n', 'f']

mutual

def inside : Value → List Char
  | .null => "None".toList
  | .bool true => "True".toList
  | .bool false => "False".toList
  | .int value => Json.intText value
  | .real value => spokenReal value
  | .str text => spokenText text.toList
  | .stamp value => value.text.toList
  | .objectId digits => digits.toList
  | .arr items => '[' :: insideItems true items ++ [']']
  | .obj members => '\x7b' :: insideMembers true members ++ ['\x7d']

def insideItems (first : Bool) : List Value → List Char
  | [] => []
  | value :: rest =>
      (if first then [] else [',', ' ']) ++ inside value ++ insideItems false rest

def insideMembers (first : Bool) : List (String × Value) → List Char
  | [] => []
  | (name, value) :: rest =>
      (if first then [] else [',', ' ']) ++ spokenText name.toList ++ [':', ' '] ++ inside value ++
        insideMembers false rest

end

def spoken : Value → String
  | .str text => text
  | value => String.ofList (inside value)

end ChatFlow.Value

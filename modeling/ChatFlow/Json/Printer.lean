import ChatFlow.Value.Basic
import ChatFlow.Number.Shortest
/-
Written forms of JSON values. A time stamp or an identifier is written as a text.
-/

namespace ChatFlow

/-- How JSON text is laid out: the marks between members and after names, and whether characters
outside the basic Latin set are escaped. -/
structure JsonLayout where
  itemSeparator : List Char
  nameSeparator : List Char
  escapeNonAscii : Bool

namespace JsonLayout

/-- A blank after each comma and colon; characters as they are. -/
def spaced : JsonLayout := ⟨[',', ' '], [':', ' '], false⟩

/-- A blank after each comma and colon; basic Latin only. -/
def spacedAscii : JsonLayout := ⟨[',', ' '], [':', ' '], true⟩

/-- No blanks; characters as they are. -/
def compact : JsonLayout := ⟨[','], [':'], false⟩

end JsonLayout

namespace Json

/-- A number below 16 as a digit. -/
def hexDigit (value : Nat) : Char :=
  if value < 10 then Char.ofNat (48 + value) else Char.ofNat (87 + value)

/-- An escape of four hexadecimal digits. -/
def unicodeEscape (unit : Nat) : List Char :=
  ['\\', 'u', hexDigit (unit / 4096 % 16), hexDigit (unit / 256 % 16), hexDigit (unit / 16 % 16),
    hexDigit (unit % 16)]

/-- The written form of one character inside quotes. -/
def quotedChar (escapeNonAscii : Bool) (character : Char) : List Char :=
  if character == '"' then ['\\', '"']
  else if character == '\\' then ['\\', '\\']
  else if character == '\n' then ['\\', 'n']
  else if character == '\r' then ['\\', 'r']
  else if character == '\t' then ['\\', 't']
  else if character == '\x08' then ['\\', 'b']
  else if character == '\x0c' then ['\\', 'f']
  else if character.toNat < 32 then unicodeEscape character.toNat
  else if escapeNonAscii && 127 ≤ character.toNat then
    if character.toNat < 0x10000 then unicodeEscape character.toNat
    else
      let offset := character.toNat - 0x10000
      unicodeEscape (0xD800 + offset / 1024) ++ unicodeEscape (0xDC00 + offset % 1024)
  else [character]

def quoted (escapeNonAscii : Bool) (text : String) : List Char :=
  '"' :: text.toList.flatMap (quotedChar escapeNonAscii) ++ ['"']

def intText (value : Int) : List Char :=
  if value < 0 then '-' :: Nat.toDigits 10 value.natAbs else Nat.toDigits 10 value.natAbs

def realText (value : Binary64) : List Char :=
  value.toText ['N', 'a', 'N'] ['I', 'n', 'f', 'i', 'n', 'i', 't', 'y']

mutual

def print (layout : JsonLayout) : Value → List Char
  | .null => ['n', 'u', 'l', 'l']
  | .bool true => ['t', 'r', 'u', 'e']
  | .bool false => ['f', 'a', 'l', 's', 'e']
  | .int value => intText value
  | .real value => realText value
  | .str text => quoted layout.escapeNonAscii text
  | .stamp value => quoted layout.escapeNonAscii value.text
  | .objectId digits => quoted layout.escapeNonAscii digits
  | .arr items => '[' :: printItems layout true items ++ [']']
  | .obj members => '\x7b' :: printMembers layout true members ++ ['\x7d']

/-- The items after the opening bracket; the first one has no separator before it. -/
def printItems (layout : JsonLayout) (first : Bool) : List Value → List Char
  | [] => []
  | value :: rest =>
      (if first then [] else layout.itemSeparator) ++ print layout value ++
        printItems layout false rest

def printMembers (layout : JsonLayout) (first : Bool) : List (String × Value) → List Char
  | [] => []
  | (name, value) :: rest =>
      (if first then [] else layout.itemSeparator) ++
        quoted layout.escapeNonAscii name ++ layout.nameSeparator ++ print layout value ++
        printMembers layout false rest

end

/-- The text of a value, with a blank after each comma and colon. -/
def toText (value : Value) : String := String.ofList (print .spaced value)

end Json

end ChatFlow

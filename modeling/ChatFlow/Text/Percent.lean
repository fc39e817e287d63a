import ChatFlow.Json.Reader
import ChatFlow.Text.Word
/-
Percent coding: a character that may not stand as it is becomes the bytes of its UTF-8 form, each as
a percent sign and two hexadecimal digits.
-/

namespace ChatFlow.Text

/-- The capital hexadecimal digit of a number below sixteen. -/
def capitalHexDigit (value : Nat) : Char :=
  Char.ofNat (if value < 10 then 48 + value else 55 + value)

def percentByte (byte : UInt8) : List Char :=
  ['%', capitalHexDigit (byte.toNat / 16), capitalHexDigit (byte.toNat % 16)]

def percentChar (character : Char) : List Char :=
  (String.utf8EncodeChar character).flatMap percentByte

/-- Characters with those that are not kept in percent coding. -/
def percentEncode (isKept : Char → Bool) (characters : List Char) : List Char :=
  characters.flatMap fun character =>
    if isKept character then [character] else percentChar character

/-- Letters, digits and the marks that stand for themselves in every part of an address. -/
def isUnreserved (character : Char) : Bool :=
  isAsciiLetter character || isAsciiDigit character || "-._~".toList.contains character

/-- The form of a text in a query or in credentials: blanks become plus signs. -/
def formEncode (characters : List Char) : List Char :=
  characters.flatMap fun character =>
    if character == ' ' then ['+']
    else if isUnreserved character then [character]
    else percentChar character

/-- The bytes of a text, each percent sign with two hexadecimal digits read as one byte. -/
def percentDecode : List Char → List UInt8
  | [] => []
  | '%' :: first :: second :: rest =>
      match Json.hexValue? first, Json.hexValue? second with
      | some high, some low => UInt8.ofNat (high * 16 + low) :: percentDecode rest
      | _, _ => 37 :: percentDecode (first :: second :: rest)
  | character :: rest => String.utf8EncodeChar character ++ percentDecode rest

end ChatFlow.Text

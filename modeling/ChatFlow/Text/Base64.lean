import ChatFlow.Text.Digit
/-
Base 64: three bytes as four characters, with equals signs where the last bytes are missing.
-/

namespace ChatFlow.Text

/-- The character of a number below sixty-four. -/
def base64Char (value : Nat) : Char :=
  Char.ofNat
    (if value < 26 then 65 + value
    else if value < 52 then 71 + value
    else if value < 62 then value - 4
    else if value = 62 then 43 else 47)

def base64Value? (character : Char) : Option Nat :=
  let code := character.toNat
  if 'A' ≤ character && character ≤ 'Z' then some (code - 65)
  else if 'a' ≤ character && character ≤ 'z' then some (code - 71)
  else if isAsciiDigit character then some (code + 4)
  else if character == '+' then some 62
  else if character == '/' then some 63
  else none

def base64Encode : List UInt8 → List Char
  | [] => []
  | [a] => [base64Char (a.toNat / 4), base64Char (a.toNat % 4 * 16), '=', '=']
  | [a, b] =>
      [base64Char (a.toNat / 4), base64Char (a.toNat % 4 * 16 + b.toNat / 16),
        base64Char (b.toNat % 16 * 4), '=']
  | a :: b :: c :: rest =>
      base64Char (a.toNat / 4) :: base64Char (a.toNat % 4 * 16 + b.toNat / 16) ::
        base64Char (b.toNat % 16 * 4 + c.toNat / 64) :: base64Char (c.toNat % 64) ::
        base64Encode rest

/-- The bytes of groups of four values; values that make no whole byte are left out. -/
def joinSextets : List Nat → List UInt8
  | a :: b :: c :: d :: rest =>
      UInt8.ofNat (a * 4 + b / 16) :: UInt8.ofNat (b % 16 * 16 + c / 4) ::
        UInt8.ofNat (c % 4 * 64 + d) :: joinSextets rest
  | [a, b, c] => [UInt8.ofNat (a * 4 + b / 16), UInt8.ofNat (b % 16 * 16 + c / 4)]
  | [a, b] => [UInt8.ofNat (a * 4 + b / 16)]
  | _ => []

/-- The bytes of a text in base 64; characters outside of it are passed over. -/
def base64Decode (characters : List Char) : List UInt8 :=
  joinSextets (characters.filterMap base64Value?)

end ChatFlow.Text

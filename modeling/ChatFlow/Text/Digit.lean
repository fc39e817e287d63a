/-
Decimal digits of every script and their values.
-/

namespace ChatFlow.Text

/-- Code of the digit zero of each script, in rising order; the nine other digits follow it. -/
def digitZeros : List Nat :=
  [48, 1632, 1776, 1984, 2406, 2534, 2662, 2790, 2918, 3046, 3174, 3302, 3430, 3558, 3664,
   3792, 3872, 4160, 4240, 6112, 6160, 6470, 6608, 6784, 6800, 6992, 7088, 7232, 7248, 42528,
   43216, 43264, 43472, 43504, 43600, 44016, 65296, 66720, 68912, 69734, 69872, 69942, 70096,
   70384, 70736, 70864, 71248, 71360, 71472, 71904, 72016, 72784, 73040, 73120, 92768, 92864,
   93008, 120782, 120792, 120802, 120812, 120822, 123200, 123632, 125264, 130032]

/-- The value of a decimal digit of any script. -/
def digitValue? (character : Char) : Option Nat :=
  (digitZeros.find? fun first => first ≤ character.toNat && character.toNat < first + 10).map
    (character.toNat - ·)

def isDigit (character : Char) : Bool := (digitValue? character).isSome

/-- One of the ten digits `0` to `9`. -/
def isAsciiDigit (character : Char) : Bool := '0' ≤ character && character ≤ '9'

/-- At least one character, and only decimal digits. -/
def isDecimal (characters : List Char) : Bool :=
  !characters.isEmpty && characters.all isDigit

/-- The number written by decimal digits of any script; other characters count as zero. -/
def digitsValue (digits : List Char) : Nat :=
  digits.foldl (fun total digit => 10 * total + (digitValue? digit).getD 0) 0

/-- Longest run of digits that is read as one number. -/
def maxNumeralDigits : Nat := 4300

end ChatFlow.Text

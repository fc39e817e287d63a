import ChatFlow.Number.Binary64
import ChatFlow.Text.Blank
import ChatFlow.Text.Digit
/-
Reading a number written by a person: blanks around it, an optional sign, decimal digits of any
script with single low lines between digits. Real numbers may also be written with a point, an
exponent, or as an infinity or "nan".
-/

namespace ChatFlow.Number

open Text

/-- Decimal digits of other scripts as the digits `0` to `9`; everything else is kept. -/
def toAsciiDigit (character : Char) : Char :=
  match digitValue? character with
  | some value => Char.ofNat (48 + value)
  | none => character

/-- Characters without the low lines, each of which has to stand between two digits. -/
def dropDigitSeparators : (previousIsDigit : Bool) → List Char → Option (List Char)
  | _, [] => some []
  | previousIsDigit, '_' :: rest =>
      match rest with
      | next :: _ =>
          if previousIsDigit && isAsciiDigit next then dropDigitSeparators false rest else none
      | [] => none
  | _, character :: rest =>
      (dropDigitSeparators (isAsciiDigit character) rest).map (character :: ·)

/-- An optional sign, as whether it is a minus, and the rest. -/
def splitSign : List Char → Bool × List Char
  | '-' :: rest => (true, rest)
  | '+' :: rest => (false, rest)
  | characters => (false, characters)

/-- Prepares written digits for reading: trimmed, in the digits `0` to `9`, separators dropped. -/
def numeral? (characters : List Char) : Option (List Char) :=
  dropDigitSeparators false ((trimBy isNumberBlank characters).map toAsciiDigit)

/-- Reads an integer of at most 4300 digits. -/
def readInt? (characters : List Char) : Option Int := do
  let (negative, digits) := splitSign (← numeral? characters)
  if digits.isEmpty || !digits.all isAsciiDigit || digits.length > maxNumeralDigits then none
  else some (if negative then -(digitsValue digits : Int) else digitsValue digits)

/-- The exponent after the mark `e` of a number written with one. -/
def exponent? : List Char → Option Int
  | [] => some 0
  | mark :: rest =>
      if mark == 'e' || mark == 'E' then
        let (negative, digits) := splitSign rest
        if digits.isEmpty || !digits.all isAsciiDigit then none
        else some (if negative then -(digitsValue digits : Int) else digitsValue digits)
      else none

/-- The nearest double to digits with an optional point and exponent. -/
def unsignedReal? (negative : Bool) (characters : List Char) : Option Binary64 := do
  let (whole, afterWhole) := characters.span isAsciiDigit
  let (fraction, afterFraction) := match afterWhole with
    | '.' :: rest => rest.span isAsciiDigit
    | _ => ([], afterWhole)
  if whole.isEmpty && fraction.isEmpty then none
  else
    let exponent ← exponent? afterFraction
    let digits := whole ++ fraction
    some (Binary64.ofDecimal negative (digitsValue digits) digits.length
      (exponent - fraction.length))

/-- Small letters of the basic Latin alphabet. -/
def asciiLower (character : Char) : Char :=
  if 'A' ≤ character && character ≤ 'Z' then Char.ofNat (character.toNat + 32) else character

def readReal? (characters : List Char) : Option Binary64 := do
  let (negative, magnitude) := splitSign (← numeral? characters)
  let word := magnitude.map asciiLower
  if word == "inf".toList || word == "infinity".toList then some (.infinite negative)
  else if word == "nan".toList then some .nan
  else unsignedReal? negative magnitude

end ChatFlow.Number

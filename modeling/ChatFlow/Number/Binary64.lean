/-
Double-precision numbers as exact values. A finite double is a whole number of units of size
2^-1074, so comparison is comparison of integers and rounding is done once, in integer arithmetic.
No operation of the machine's floating-point unit is used.
-/

namespace ChatFlow

/-- A double: not a number, an infinity, or a sign with a magnitude counted in units of 2^-1074. -/
inductive Binary64 where
  | nan
  | infinite (negative : Bool)
  | finite (negative : Bool) (units : Nat)
  deriving DecidableEq, Repr, Inhabited

namespace Binary64

/-! ### Rounding -/

def unitsPerOne : Nat := Nat.pow 2 1074

/-- Distance between neighbouring doubles at a magnitude: 53 significant bits are kept. -/
def spacing (units : Nat) : Nat :=
  if units < Nat.pow 2 53 then 1 else Nat.pow 2 (units.log2 - 52)

/-- First magnitude, in units, that no double reaches. -/
def overflowUnits : Nat := Nat.pow 2 2098

/-- Nearest whole number to a quotient; a tie goes to the even neighbour. -/
def divideToEven (numerator denominator : Nat) : Nat :=
  let quotient := numerator / denominator
  let twice := 2 * (numerator % denominator)
  if twice > denominator || (twice == denominator && quotient % 2 == 1) then quotient + 1
  else quotient

/-- Nearest double to the quotient of two natural numbers; overflow gives an infinity. -/
def ofRatio (negative : Bool) (numerator denominator : Nat) : Binary64 :=
  let scaled := numerator * unitsPerOne
  let step := spacing (scaled / denominator)
  let units := divideToEven scaled (denominator * step) * step
  if units < overflowUnits then .finite negative units else .infinite negative

/-- Nearest double to `digits * 10 ^ exponent`, where `digitCount` is how many digits were written.
Exponents far outside the range are answered without forming the power. -/
def ofDecimal (negative : Bool) (digits digitCount : Nat) (exponent : Int) : Binary64 :=
  if digits == 0 then .finite negative 0
  else if exponent > 400 then .infinite negative
  else if exponent + digitCount < -400 then .finite negative 0
  else if 0 ≤ exponent then ofRatio negative (digits * Nat.pow 10 exponent.toNat) 1
  else ofRatio negative digits (Nat.pow 10 (-exponent).toNat)

/-- Nearest double to an integer; `none` when the integer is beyond every finite double. -/
def ofInt? (value : Int) : Option Binary64 :=
  match ofRatio (value < 0) value.natAbs 1 with
  | .finite negative units => some (.finite negative units)
  | _ => none

/-- The double nearest to an integer, an infinity beyond the range. -/
def ofInt (value : Int) : Binary64 := ofRatio (value < 0) value.natAbs 1

/-! ### Reading a double -/

def isFinite : Binary64 → Bool
  | .finite _ _ => true
  | _ => false

def isNaN : Binary64 → Bool
  | .nan => true
  | _ => false

/-- Signed number of units of a finite double. -/
def signedUnits (negative : Bool) (units : Nat) : Int :=
  if negative then -(units : Int) else units

/-- The integer a finite double equals, when it equals one. -/
def toInt? : Binary64 → Option Int
  | .finite negative units =>
      if units % unitsPerOne == 0 then some (signedUnits negative (units / unitsPerOne)) else none
  | _ => none

/-- A finite double cut towards zero. -/
def truncate? : Binary64 → Option Int
  | .finite negative units => some (signedUnits negative (units / unitsPerOne))
  | _ => none

def isZero : Binary64 → Bool
  | .finite _ units => units == 0
  | _ => false

/-! ### Comparison -/

/-- Strict numeric order; nothing is below or above a value that is not a number. -/
def lt : Binary64 → Binary64 → Bool
  | .nan, _ => false
  | _, .nan => false
  | .infinite negative, .infinite negative' => negative && !negative'
  | .infinite negative, .finite _ _ => negative
  | .finite _ _, .infinite negative => !negative
  | .finite negative units, .finite negative' units' =>
      decide (signedUnits negative units < signedUnits negative' units')

/-- Numeric equality: both zeros are equal and a value that is not a number equals nothing. -/
def equals : Binary64 → Binary64 → Bool
  | .nan, _ => false
  | _, .nan => false
  | .infinite negative, .infinite negative' => negative == negative'
  | .finite negative units, .finite negative' units' =>
      signedUnits negative units == signedUnits negative' units'
  | _, _ => false

def le (left right : Binary64) : Bool := lt left right || equals left right

end Binary64

end ChatFlow

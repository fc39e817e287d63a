import ChatFlow.Number.Binary64
/-
The shortest decimal that reads back as a given double, and its written form. The interval of reals
that round to the double is scanned on decimal grids of 1, 2, … 17 digits; the first grid with a
point inside wins, and of two such points the nearer one.
-/

namespace ChatFlow.Binary64

/-- A positive decimal `digits * 10 ^ exponent`. -/
structure Decimal where
  digits : Nat
  exponent : Int
  deriving DecidableEq, Repr

def decimalDigits (value : Nat) : List Char := Nat.toDigits 10 value

/-- The exponent `k` with `10 ^ k ≤ numerator / denominator < 10 ^ (k + 1)`. -/
def decimalExponent (numerator denominator : Nat) : Int :=
  if denominator ≤ numerator then ((decimalDigits (numerator / denominator)).length : Int) - 1
  else
    let quotient := (denominator + numerator - 1) / numerator
    Int.negOfNat (decimalDigits (quotient - 1)).length

/-- The interval of reals that round to a positive magnitude, in quarters of a unit, with whether
its ends belong to it. -/
structure RoundingInterval where
  lower : Nat
  centre : Nat
  upper : Nat
  closed : Bool

def roundingInterval (units : Nat) : RoundingInterval :=
  let step := spacing units
  let below := if units == Nat.pow 2 52 * step && step > 1 then 4 * units - step else 4 * units - 2 * step
  { lower := below, centre := 4 * units, upper := 4 * units + 2 * step
    closed := (units / step) % 2 == 0 }

/-- The point of one decimal grid that is inside the interval and nearest to its centre. -/
def gridPoint? (interval : RoundingInterval) (exponent : Int) : Option Decimal :=
  let quarters := 4 * unitsPerOne
  -- a grid point `c` has size `c * pointSize`, an interval bound `b` has size `b * boundSize`
  let pointSize := if 0 ≤ exponent then Nat.pow 10 exponent.toNat * quarters else quarters
  let boundSize := if 0 ≤ exponent then 1 else Nat.pow 10 (-exponent).toNat
  let inside (point : Nat) : Bool :=
    let size := point * pointSize
    if interval.closed then interval.lower * boundSize ≤ size && size ≤ interval.upper * boundSize
    else interval.lower * boundSize < size && size < interval.upper * boundSize
  let centre := interval.centre * boundSize
  let low := centre / pointSize
  let high := low + 1
  let lowNearer := 2 * centre < (low + high) * pointSize ||
    (2 * centre == (low + high) * pointSize && low % 2 == 0)
  match inside low, inside high with
  | true, true => some ⟨if lowNearer then low else high, exponent⟩
  | true, false => some ⟨low, exponent⟩
  | false, true => some ⟨high, exponent⟩
  | false, false => none

/-- The shortest decimal that reads back as a positive magnitude. -/
def shortest (units : Nat) : Decimal :=
  let interval := roundingInterval units
  let leading := decimalExponent units unitsPerOne
  let grids := (List.range 17).map (fun (count : Nat) => leading - count)
  (grids.findSome? (gridPoint? interval)).getD ⟨0, 0⟩

/-! ### Written form -/

/-- Digits without the zeros at their end. -/
def dropTrailingZeros (digits : List Char) : List Char :=
  (digits.reverse.dropWhile (· == '0')).reverse

/-- Positional notation where the decimal point falls at most 16 places after the first digit and
at most 3 zeros stand before it; an exponent of at least two digits elsewhere. -/
def decimalText (decimal : Decimal) : List Char :=
  let all := decimalDigits decimal.digits
  let point : Int := all.length + decimal.exponent
  let digits := dropTrailingZeros all
  if -4 < point && point ≤ 16 then
    if point ≤ 0 then ['0', '.'] ++ List.replicate (-point).toNat '0' ++ digits
    else
      let whole := point.toNat
      if digits.length ≤ whole then
        digits ++ List.replicate (whole - digits.length) '0' ++ ['.', '0']
      else digits.take whole ++ ['.'] ++ digits.drop whole
  else
    let power := point - 1
    let mantissa := match digits with
      | [] => []
      | [first] => [first]
      | first :: rest => first :: '.' :: rest
    let powerDigits := decimalDigits power.natAbs
    let padded := if powerDigits.length < 2 then '0' :: powerDigits else powerDigits
    mantissa ++ ['e', if power < 0 then '-' else '+'] ++ padded

/-- The written form of a double, with the given words for the values that are no finite number. -/
def toText (notANumber infinity : List Char) : Binary64 → List Char
  | .nan => notANumber
  | .infinite negative => if negative then '-' :: infinity else infinity
  | .finite negative units =>
      let magnitude := if units == 0 then ['0', '.', '0'] else decimalText (shortest units)
      if negative then '-' :: magnitude else magnitude

end ChatFlow.Binary64

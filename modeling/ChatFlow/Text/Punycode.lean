import ChatFlow.Text.Digit
/-
Punycode: a label of any characters as a label of ASCII. The ASCII characters come first; after the
last hyphen each other character is inserted, in rising order of code, by the distance from the
insertion before it.
-/

namespace ChatFlow.Text.Punycode

/-- The letter or digit of a number below thirty-six. -/
def digit (value : Nat) : Char := Char.ofNat (if value < 26 then 97 + value else 22 + value)

/-- The least value that a digit at a place has to reach for the number to go on. -/
def threshold (place bias : Nat) : Nat :=
  if place ≤ bias then 1 else if bias + 26 ≤ place then 26 else place - bias

/-- Halves a distance by thirty-five until it is small, and counts the places. -/
def shrink (places distance : Nat) : Nat × Nat :=
  if 455 < distance then shrink (places + 36) (distance / 35) else (places, distance)
termination_by distance
decreasing_by exact Nat.div_lt_self (by omega) (by omega)

/-- The bias for the next distance. -/
def adapt (distance count : Nat) (isFirst : Bool) : Nat :=
  let scaled := if isFirst then distance / 700 else distance / 2
  let (places, rest) := shrink 0 (scaled + scaled / count)
  places + 36 * rest / (rest + 38)

theorem threshold_bounds (place bias : Nat) :
    1 ≤ threshold place bias ∧ threshold place bias ≤ 26 := by
  unfold threshold
  split
  · omega
  · split <;> omega

/-- The digits of a distance, the lowest first. -/
def digitsOf (bias place distance : Nat) : List Char :=
  let least := threshold place bias
  if distance < least then [digit distance]
  else
    digit (least + (distance - least) % (36 - least)) ::
      digitsOf bias (place + 36) ((distance - least) / (36 - least))
termination_by distance
decreasing_by
  have bounds := threshold_bounds place bias
  have smaller : (distance - threshold place bias) / (36 - threshold place bias) ≤
      distance - threshold place bias := Nat.div_le_self _ _
  omega

/-- Where the coding of a label stands: the code up to which characters are inserted, the distance
counted since the last insertion, the bias, and how many characters are in place. -/
structure State where
  code : Nat
  distance : Nat
  bias : Nat
  count : Nat
  isFirst : Bool

/-- Inserts every occurrence of one code, in order; lower codes are counted on the way. -/
def insertCode (code : Nat) : List Nat → State → List Char × State
  | [], state => ([], state)
  | next :: rest, state =>
      if next < code then insertCode code rest { state with distance := state.distance + 1 }
      else if next = code then
        let digits := digitsOf state.bias 36 state.distance
        let (more, last) := insertCode code rest
          { state with
            distance := 0
            bias := adapt state.distance (state.count + 1) state.isFirst
            count := state.count + 1
            isFirst := false }
        (digits ++ more, last)
      else insertCode code rest state

/-- Inserts every one of some codes, in rising order. -/
def insertAll (label : List Nat) : List Nat → State → List Char
  | [], _ => []
  | code :: rest, state =>
      let (digits, later) := insertCode code label
        { state with distance := state.distance + (code - state.code) * (state.count + 1) }
      digits ++ insertAll label rest
        { later with code := code + 1, distance := later.distance + 1 }

def encode (label : List Char) : List Char :=
  let basic := label.filter fun character => character.toNat < 128
  let codes := label.map Char.toNat
  let others := ((codes.filter (128 ≤ ·)).mergeSort (· ≤ ·)).eraseDups
  (if basic.isEmpty then [] else basic ++ ['-']) ++
    insertAll codes others ⟨128, 0, 72, basic.length, true⟩

end ChatFlow.Text.Punycode

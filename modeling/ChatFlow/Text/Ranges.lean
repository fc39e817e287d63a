/-
Membership in a table of code ranges.
-/

namespace ChatFlow.Text

/-- Whether a code lies in one of the ranges; the ranges stand in rising order. -/
def inRanges (code : Nat) : List (Nat × Nat) → Bool
  | [] => false
  | (first, last) :: rest =>
      if code < first then false
      else if code ≤ last then true
      else inRanges code rest

end ChatFlow.Text

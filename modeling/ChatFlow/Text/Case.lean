import ChatFlow.Text.Ranges
import ChatFlow.Text.CaseTable
/-
Small letters. Most characters are mapped on their own; a capital dotted I becomes two characters,
and a capital sigma becomes a final sigma at the end of a word.
-/

namespace ChatFlow.Text

/-- Code of the small letter by the table of runs. -/
def lowerCode (code : Nat) : List (Nat × Nat × Nat × Int) → Nat
  | [] => code
  | (first, last, stride, distance) :: rest =>
      if code < first then code
      else if code ≤ last then
        if (code - first) % stride == 0 then ((code : Int) + distance).toNat else code
      else lowerCode code rest

/-- The small letter of one character, taken alone. -/
def lowerChar (character : Char) : Char := Char.ofNat (lowerCode character.toNat lowerRuns)

/-- A letter that a sigma may end a word after. -/
def isCasedLetter (character : Char) : Bool :=
  inRanges character.toNat finalSigmaLetterRanges

def isCaseIgnorable (character : Char) : Bool := inRanges character.toNat caseIgnorableRanges

/-- Whether the nearest character that casing does not look through is a letter with case. -/
def nextIsCased (characters : List Char) : Bool :=
  match characters.dropWhile isCaseIgnorable with
  | [] => false
  | character :: _ => isCasedLetter character

/-- Small form of one character between the characters before it (nearest first) and after it. -/
def lowerBetween (before : List Char) (character : Char) (after : List Char) : List Char :=
  if character == 'İ' then ['i', '\u0307']
  else if character == 'Σ' then
    if nextIsCased before && !nextIsCased after then ['ς'] else ['σ']
  else [lowerChar character]

def lowerFrom (before : List Char) : List Char → List Char
  | [] => []
  | character :: rest =>
      lowerBetween before character rest ++ lowerFrom (character :: before) rest

def lowerChars (characters : List Char) : List Char := lowerFrom [] characters

def lower (text : String) : String := String.ofList (lowerChars text.toList)

end ChatFlow.Text

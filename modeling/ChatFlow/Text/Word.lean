import ChatFlow.Text.Ranges
import ChatFlow.Text.WordTable
/-
Characters of words and names.
-/

namespace ChatFlow.Text

def isLetterOrNumber (character : Char) : Bool := inRanges character.toNat letterOrNumberRanges

/-- A letter, a number or a low line. -/
def isWordCharacter (character : Char) : Bool :=
  character == '_' || isLetterOrNumber character

def isAsciiLetter (character : Char) : Bool :=
  ('a' ≤ character && character ≤ 'z') || ('A' ≤ character && character ≤ 'Z')

end ChatFlow.Text

import ChatFlow.Text.Ranges
import ChatFlow.Text.NameTable
/-
Names: a letter or a low line, and then letters, digits, marks and low lines.
-/

namespace ChatFlow.Text

def isNameStart (character : Char) : Bool := inRanges character.toNat nameStartRanges

def isNameRest (character : Char) : Bool := inRanges character.toNat nameRestRanges

def isName : List Char → Bool
  | [] => false
  | first :: rest => isNameStart first && rest.all isNameRest

end ChatFlow.Text

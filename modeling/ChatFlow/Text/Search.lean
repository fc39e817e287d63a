/-
Finding, splitting and replacing within a list of characters.
-/

namespace ChatFlow.Text

/-- Whether the second list starts with the first. -/
def startsWith (start characters : List Char) : Bool := start.isPrefixOf characters

def endsWith (ending characters : List Char) : Bool := ending.isSuffixOf characters

/-- Whether a list of characters stands somewhere inside another. -/
def occursIn (part : List Char) : List Char → Bool
  | [] => part.isEmpty
  | character :: rest => startsWith part (character :: rest) || occursIn part rest

/-- The pieces between the characters that satisfy a test; always one more than there are such
characters. -/
def splitWhere (test : Char → Bool) : List Char → List (List Char)
  | [] => [[]]
  | character :: rest =>
      match splitWhere test rest with
      | piece :: others =>
          if test character then [] :: piece :: others else (character :: piece) :: others
      | [] => [[character]]

/-- Pieces with a separator between each two of them. -/
def joinWith (separator : List Char) : List (List Char) → List Char
  | [] => []
  | [piece] => piece
  | piece :: rest => piece ++ separator ++ joinWith separator rest

end ChatFlow.Text

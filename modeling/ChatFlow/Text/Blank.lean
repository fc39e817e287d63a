import ChatFlow.Text.Ranges
/-
White space of every script: the characters that trimming removes. The information separators
U+001C to U+001F, the next-line control and the no-break space count as blank; the zero-width
space does not.
-/

namespace ChatFlow.Text

def blankRanges : List (Nat × Nat) :=
  [(0x9, 0xd), (0x1c, 0x20), (0x85, 0x85), (0xa0, 0xa0), (0x1680, 0x1680), (0x2000, 0x200a),
   (0x2028, 0x2029), (0x202f, 0x202f), (0x205f, 0x205f), (0x3000, 0x3000)]

def isBlank (character : Char) : Bool := inRanges character.toNat blankRanges

/-- Blank, the four information separators apart. -/
def isNumberBlank (character : Char) : Bool :=
  isBlank character && !(0x1c ≤ character.toNat && character.toNat ≤ 0x1f)

/-- The blanks of ASCII: the space, the tab and the line controls. -/
def isAsciiBlank (character : Char) : Bool :=
  character == ' ' || (0x9 ≤ character.toNat && character.toNat ≤ 0xd)

/-- Characters without those at the start that satisfy a test. -/
def trimStartBy (test : Char → Bool) (characters : List Char) : List Char :=
  characters.dropWhile test

/-- Characters without those at the end that satisfy a test. -/
def trimEndBy (test : Char → Bool) (characters : List Char) : List Char :=
  (characters.reverse.dropWhile test).reverse

def trimBy (test : Char → Bool) (characters : List Char) : List Char :=
  trimEndBy test (trimStartBy test characters)

/-- Characters without blanks at either end. -/
def trimBlanks (characters : List Char) : List Char := trimBy isBlank characters

/-- A text without blanks at either end. -/
def trim (text : String) : String := String.ofList (trimBlanks text.toList)

end ChatFlow.Text

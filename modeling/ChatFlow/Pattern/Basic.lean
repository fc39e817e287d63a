/-
Patterns of the regular-expression language that trigger keywords may be written in.
-/

namespace ChatFlow

/-- Switches of a pattern or of a part of it. -/
structure PatternFlags where
  ignoreCase : Bool := false
  multiline : Bool := false
  dotAll : Bool := false
  verbose : Bool := false
  ascii : Bool := false
  unicode : Bool := false
  template : Bool := false
  deriving DecidableEq, Repr, Inhabited

/-- Classes of characters with a letter of their own. -/
inductive CharacterClass where
  | digit | notDigit | space | notSpace | word | notWord
  deriving DecidableEq, Repr

/-- A member of a set of characters. Characters are given by their codes. -/
inductive SetItem where
  | one (code : Nat)
  | range (first last : Nat)
  | cls (cls : CharacterClass)
  deriving DecidableEq, Repr

/-- Conditions on a place of the text. -/
inductive Place where
  | lineStart | lineEnd | textStart | textEnd | boundary | notBoundary
  deriving DecidableEq, Repr

/-- How a repeated part gives back what it took: as late as possible, as early as possible, or
never. -/
inductive RepeatStyle where
  | greedy | lazy | possessive
  deriving DecidableEq, Repr

/-- A part of a pattern; a pattern is a list of parts. -/
inductive PatternPart where
  | literal (negated : Bool) (code : Nat)
  | anyCharacter
  | set (negated : Bool) (items : List SetItem)
  | place (place : Place)
  | backreference (group : Nat)
  | group (number : Option Nat) (added removed : PatternFlags) (body : List PatternPart)
  | atomic (body : List PatternPart)
  | lookAhead (negated : Bool) (body : List PatternPart)
  | lookBehind (negated : Bool) (width : Option Nat) (body : List PatternPart)
  | iterate (style : RepeatStyle) (least : Nat) (most : Option Nat) (body : List PatternPart)
  | conditional (group : Nat) (present absent : List PatternPart)
  | branch (alternatives : List (List PatternPart))
  deriving Repr, Inhabited

/-- A pattern with the switches that hold for all of it. -/
structure Pattern where
  flags : PatternFlags
  parts : List PatternPart

/-- Why a text is not taken as a pattern. -/
inductive PatternError where
  | refused
  | repetitionTooLarge
  | unreadable
  deriving DecidableEq, Repr

end ChatFlow

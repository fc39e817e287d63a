import ChatFlow.Pattern.Basic
/-
Least and greatest number of characters that a part of a pattern takes.
-/

namespace ChatFlow.PatternPart

/-- Widths are counted up to this bound. -/
def widthBound : Nat := Nat.pow 2 64

/-- The least and greatest width; widths beyond the bound count as the bound. -/
abbrev Width := Nat × Nat

def capWidth (width : Width) : Width := (min width.1 widthBound, min width.2 widthBound)

def groupWidth (groups : List (Option Width)) (group : Nat) : Width :=
  ((groups[group]?).getD none).getD (0, 0)

mutual

def width (groups : List (Option Width)) : PatternPart → Width
  | .literal .. => (1, 1)
  | .anyCharacter => (1, 1)
  | .set .. => (1, 1)
  | .place _ => (0, 0)
  | .backreference number => groupWidth groups number
  | .group _ _ _ body => capWidth (widthSum groups body)
  | .atomic body => capWidth (widthSum groups body)
  | .lookAhead .. => (0, 0)
  | .lookBehind .. => (0, 0)
  | .iterate _ least most body =>
      let (low, high) := capWidth (widthSum groups body)
      (low * least, match most with
        | some most => high * most
        | none => if high = 0 then 0 else widthBound)
  | .conditional _ present absent =>
      let (low, high) := capWidth (widthSum groups present)
      if absent.isEmpty then (0, high)
      else
        let (low', high') := capWidth (widthSum groups absent)
        (min low low', max high high')
  | .branch alternatives => widthChoice groups alternatives

/-- Width of parts one after the other. -/
def widthSum (groups : List (Option Width)) : List PatternPart → Width
  | [] => (0, 0)
  | part :: rest =>
      let (low, high) := width groups part
      let (low', high') := widthSum groups rest
      (low + low', high + high')

/-- Width of a choice between lists of parts. -/
def widthChoice (groups : List (Option Width)) : List (List PatternPart) → Width
  | [] => (widthBound, 0)
  | parts :: rest =>
      let (low, high) := capWidth (widthSum groups parts)
      let (low', high') := widthChoice groups rest
      (min low low', max high high')

end

mutual

/-- Whether every part behind the place looked at has one width, and that one small enough. -/
def hasFixedLookBehinds : PatternPart → Bool
  | .group _ _ _ body => haveFixedLookBehinds body
  | .atomic body => haveFixedLookBehinds body
  | .lookAhead _ body => haveFixedLookBehinds body
  | .lookBehind _ width body => width.isSome && haveFixedLookBehinds body
  | .iterate _ _ _ body => haveFixedLookBehinds body
  | .conditional _ present absent => haveFixedLookBehinds present && haveFixedLookBehinds absent
  | .branch alternatives => choicesHaveFixedLookBehinds alternatives
  | _ => true

def haveFixedLookBehinds : List PatternPart → Bool
  | [] => true
  | part :: rest => hasFixedLookBehinds part && haveFixedLookBehinds rest

def choicesHaveFixedLookBehinds : List (List PatternPart) → Bool
  | [] => true
  | parts :: rest => haveFixedLookBehinds parts && choicesHaveFixedLookBehinds rest

end

mutual

def repeats : PatternPart → Bool
  | .group _ _ _ body => anyRepeats body
  | .atomic body => anyRepeats body
  | .lookAhead _ body => anyRepeats body
  | .lookBehind _ _ body => anyRepeats body
  | .iterate .. => true
  | .conditional _ present absent => anyRepeats present || anyRepeats absent
  | .branch alternatives => anyChoiceRepeats alternatives
  | _ => false

def anyRepeats : List PatternPart → Bool
  | [] => false
  | part :: rest => repeats part || anyRepeats rest

def anyChoiceRepeats : List (List PatternPart) → Bool
  | [] => false
  | parts :: rest => anyRepeats parts || anyChoiceRepeats rest

end

end ChatFlow.PatternPart

import ChatFlow.Pattern.Reader
import ChatFlow.Text.Blank
import ChatFlow.Text.Case
/-
Looking for a pattern in a text. The parts of a pattern are tried from left to right, each with what
is to follow it; where the rest fails, the part gives way to its next possibility.
-/

namespace ChatFlow

open Text

/-! ### Characters -/

namespace CharacterMatch

def isClassMember (flags : PatternFlags) (cls : CharacterClass) (character : Char) : Bool :=
  let ascii := flags.ascii
  let basic := character.toNat < 128
  match cls with
  | .digit => isDigit character && (basic || !ascii)
  | .notDigit => !(isDigit character && (basic || !ascii))
  | .space => isSpace ascii character
  | .notSpace => !isSpace ascii character
  | .word => isWordCharacter character && (basic || !ascii)
  | .notWord => !(isWordCharacter character && (basic || !ascii))
where
  isSpace (ascii : Bool) (character : Char) : Bool :=
    if ascii then PatternReader.isPatternBlank character else isBlank character

/-- The small form of a code under the switches. -/
def smallCode (ascii : Bool) (code : Nat) : Nat :=
  if ascii then if 65 ≤ code && code ≤ 90 then code + 32 else code else lowerCode code lowerRuns

def hasCase (ascii : Bool) (code : Nat) : Bool :=
  if ascii then (65 ≤ code && code ≤ 90) || (97 ≤ code && code ≤ 122)
  else inRanges code caseVariantRanges

/-- The other small letters that share a capital with a small letter. -/
def sharers (ascii : Bool) (small : Nat) : List Nat :=
  if ascii then []
  else ((sharedCapital.find? fun entry => entry.1 = small).map Prod.snd).getD []

/-- Whether some code of a range has a given small form. -/
def rangeHasSmall (ascii : Bool) (first last small : Nat) : Bool :=
  let within (code : Nat) : Bool := first ≤ code && code ≤ last && smallCode ascii code = small
  within small ||
    if ascii then 97 ≤ small && within (small - 32)
    else lowerRuns.any fun (_, _, _, distance) => within ((small : Int) - distance).toNat

/-- First code beyond the basic plane. -/
def astral : Nat := 0x10000

/-- Whether a member makes its set look at small forms. -/
def foldsCase (ascii : Bool) : SetItem → Bool
  | .one code => hasCase ascii code || code ≥ astral
  | .range first last =>
      last ≥ astral ||
        if ascii then first ≤ 122 && 65 ≤ last && !(first > 90 && last < 97)
        else caseVariantRanges.any fun (low, high) => first ≤ high && low ≤ last
  | .cls _ => false

def isItem (flags : PatternFlags) (character : Char) : SetItem → Bool
  | .one code => character.toNat = code
  | .range first last => first ≤ character.toNat && character.toNat ≤ last
  | .cls cls => isClassMember flags cls character

/-- Whether a character, in its small form, is a member up to case. A member beyond the basic plane
is compared as it is written. -/
def isFoldedItem (flags : PatternFlags) (character : Char) : SetItem → Bool
  | .one code =>
      let small := smallCode flags.ascii code
      if code ≥ astral then character.toNat = code
      else character.toNat = small || (sharers flags.ascii small).contains character.toNat
  | .range first last =>
      let ascii := flags.ascii && character.toNat < astral
      isItem flags character (.range first last) ||
        (character.toNat :: sharers ascii character.toNat).any (rangeHasSmall ascii first last)
  | .cls cls => isClassMember flags cls character

def isInSet (flags : PatternFlags) (items : List SetItem) (character : Char) : Bool :=
  if flags.ignoreCase && items.any (foldsCase flags.ascii) then
    let small := Char.ofNat (smallCode flags.ascii character.toNat)
    items.any (isFoldedItem flags small)
  else items.any (isItem flags character)

def isLiteral (flags : PatternFlags) (code : Nat) (character : Char) : Bool :=
  if flags.ignoreCase && hasCase flags.ascii code then
    let small := smallCode flags.ascii code
    let found := smallCode flags.ascii character.toNat
    found = small || (sharers flags.ascii small).contains found
  else character.toNat = code

def isSameCharacter (flags : PatternFlags) (first second : Char) : Bool :=
  if flags.ignoreCase then
    smallCode flags.ascii first.toNat = smallCode flags.ascii second.toNat
  else first = second

end CharacterMatch

/-! ### Places and groups -/

/-- How far a search has come: the position, and where each group last began and ended. -/
structure Spot where
  position : Nat
  starts : List (Nat × Nat)
  ends : List (Nat × Nat)

namespace Spot

def starting (position : Nat) : Spot := ⟨position, [], []⟩

/-- What a group has taken; `none` while it has not ended or has begun anew. -/
def span? (spot : Spot) (group : Nat) : Option (Nat × Nat) := do
  let first ← spot.starts.lookup group
  let last ← spot.ends.lookup group
  if first ≤ last then some (first, last) else none

end Spot

namespace Pattern

open CharacterMatch

def isWordAt (flags : PatternFlags) (text : Array Char) (position : Nat) : Bool :=
  match text[position]? with
  | some character => isClassMember flags .word character
  | none => false

def isLineBreakAt (text : Array Char) (position : Nat) : Bool :=
  text[position]? == some '\n'

/-- Whether a word begins or ends at a position. -/
def isBoundary (flags : PatternFlags) (text : Array Char) (position : Nat) : Bool :=
  let before := position > 0 && isWordAt flags text (position - 1)
  before != isWordAt flags text position

/-- Whether a position is a place of a kind. In an empty text words neither have nor lack a
boundary. -/
def isPlace (flags : PatternFlags) (text : Array Char) (position : Nat) : Place → Bool
  | .lineStart =>
      position = 0 || (flags.multiline && isLineBreakAt text (position - 1))
  | .lineEnd =>
      position = text.size || (isLineBreakAt text position &&
        (flags.multiline || position + 1 = text.size))
  | .textStart => position = 0
  | .textEnd => position = text.size
  | .boundary => text.size > 0 && isBoundary flags text position
  | .notBoundary => text.size > 0 && !isBoundary flags text position

/-- The switches inside a group. -/
def innerFlags (flags added removed : PatternFlags) : PatternFlags :=
  let kept := if added.ascii || added.unicode then { flags with ascii := false } else flags
  { kept with
    ignoreCase := (kept.ignoreCase || added.ignoreCase) && !removed.ignoreCase
    multiline := (kept.multiline || added.multiline) && !removed.multiline
    dotAll := (kept.dotAll || added.dotAll) && !removed.dotAll
    ascii := kept.ascii || added.ascii }

/-- The position after the repetition of an earlier part of the text. -/
def repeatedAt? (flags : PatternFlags) (text : Array Char) (first : Nat) :
    (length position : Nat) → Option Nat
  | 0, position => some position
  | length + 1, position =>
      match text[first]?, text[position]? with
      | some before, some now =>
          if isSameCharacter flags before now then
            repeatedAt? flags text (first + 1) length (position + 1)
          else none
      | _, _ => none

/-- What a part does with a spot and with what is to follow. -/
abbrev Step := Spot → (Spot → Option Spot) → Option Spot

/-- Takes one character that satisfies a test. -/
def takeOne (text : Array Char) (test : Char → Bool) : Step := fun spot follow =>
  match text[spot.position]? with
  | some character =>
      if test character then follow { spot with position := spot.position + 1 } else none
  | none => none

/-- A part a number of times, one after the other. -/
def times (step : Step) : Nat → Step
  | 0, spot, follow => follow spot
  | count + 1, spot, follow => step spot fun later => times step count later follow

/-- A part as often as possible and no more often than `most`. A repetition that starts where the
last one started is not tried. -/
def greedy (step : Step) : (fuel : Nat) → (most : Option Nat) → (last : Option Nat) → Step
  | 0, _, _, spot, follow => follow spot
  | fuel + 1, most, last, spot, follow =>
      if most == some 0 || last == some spot.position then follow spot
      else
        (step spot fun later =>
          greedy step fuel (most.map (· - 1)) (some spot.position) later follow) <|> follow spot

/-- A part as seldom as possible. -/
def lazily (step : Step) : (fuel : Nat) → (most : Option Nat) → (last : Option Nat) → Step
  | 0, _, _, spot, follow => follow spot
  | fuel + 1, most, last, spot, follow =>
      follow spot <|>
        if most == some 0 || last == some spot.position then none
        else step spot fun later =>
          lazily step fuel (most.map (· - 1)) (some spot.position) later follow

/-- A part without any way back into it. -/
def once (step : Step) : Step := fun spot follow => (step spot some).bind follow

/-- A part again and again, each time without a way back, until it fails or takes nothing. -/
def exhaust (step : Step) : (fuel : Nat) → (most : Option Nat) → Spot → Spot
  | 0, _, spot => spot
  | fuel + 1, most, spot =>
      if most == some 0 then spot
      else match step spot some with
        | none => spot
        | some later =>
            if later.position = spot.position then later
            else exhaust step fuel (most.map (· - 1)) later

/-- A part at least and at most a number of times. -/
def repeated (step : Step) (style : RepeatStyle) (least : Nat) (most : Option Nat)
    (size : Nat) : Step := fun spot follow =>
  let more := most.map (· - least)
  let fuel := size + 2
  match style with
  | .greedy => times step least spot fun later => greedy step fuel more none later follow
  | .lazy => times step least spot fun later => lazily step fuel more none later follow
  | .possessive =>
      times (once step) least spot fun later => follow (exhaust step fuel more later)

mutual

def matchPart (text : Array Char) : PatternPart → PatternFlags → Step
  | .literal negated code, flags =>
      takeOne text fun character => isLiteral flags code character != negated
  | .anyCharacter, flags => takeOne text fun character => flags.dotAll || character != '\n'
  | .set negated items, flags =>
      takeOne text fun character => isInSet flags items character != negated
  | .place place, flags => fun spot follow =>
      if isPlace flags text spot.position place then follow spot else none
  | .backreference group, flags => fun spot follow =>
      match spot.span? group with
      | some (first, last) =>
          match repeatedAt? flags text first (last - first) spot.position with
          | some position => follow { spot with position }
          | none => none
      | none => none
  | .group none added removed body, flags =>
      matchParts text body (innerFlags flags added removed)
  | .group (some number) added removed body, flags => fun spot follow =>
      matchParts text body (innerFlags flags added removed)
        { spot with starts := (number, spot.position) :: spot.starts }
        fun later => follow { later with ends := (number, later.position) :: later.ends }
  | .atomic body, flags => once (matchParts text body flags)
  | .lookAhead negated body, flags => fun spot follow =>
      match matchParts text body flags spot some with
      | some later => if negated then none else follow { later with position := spot.position }
      | none => if negated then follow spot else none
  | .lookBehind negated width body, flags => fun spot follow =>
      let width := width.getD 0
      let found :=
        if spot.position < width then none
        else matchParts text body flags { spot with position := spot.position - width } some
      match found with
      | some later => if negated then none else follow { later with position := spot.position }
      | none => if negated then follow spot else none
  | .iterate style least most body, flags =>
      repeated (matchParts text body flags) style least most text.size
  | .conditional group present absent, flags => fun spot follow =>
      if (spot.span? group).isSome then matchParts text present flags spot follow
      else matchParts text absent flags spot follow
  | .branch alternatives, flags => matchChoice text alternatives flags

def matchParts (text : Array Char) : List PatternPart → PatternFlags → Step
  | [], _ => fun spot follow => follow spot
  | part :: rest, flags => fun spot follow =>
      matchPart text part flags spot fun later => matchParts text rest flags later follow

/-- Matches the first alternative with which the rest goes on. -/
def matchChoice (text : Array Char) : List (List PatternPart) → PatternFlags → Step
  | [], _ => fun _ _ => none
  | parts :: rest, flags => fun spot follow =>
      matchParts text parts flags spot follow <|> matchChoice text rest flags spot follow

end

def occursIn (pattern : Pattern) (characters : List Char) : Bool :=
  let text := characters.toArray
  (List.range (text.size + 1)).any fun position =>
    (matchParts text pattern.parts pattern.flags (Spot.starting position) some).isSome

end Pattern

end ChatFlow

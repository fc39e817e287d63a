import Mathlib.Data.List.Basic
import ChatFlow.Trigger
/-
Keywords that stand in a message as they are written. Keyword and message are put into small letters
apart from each other, and what becomes of a letter does not depend on its neighbours, but for the
capital sigma: its small form is another one at the end of a word. A keyword is found where it stands
unless one of its sigmas ends a word in the keyword and not in the message, or the other way round.
-/

set_option autoImplicit false

namespace ChatFlow.Text

/-! ### Finding a part -/

theorem startsWith_iff (part characters : List Char) :
    startsWith part characters = true ↔ part <+: characters :=
  List.isPrefixOf_iff_prefix

theorem occursIn_iff (part characters : List Char) :
    occursIn part characters = true ↔ part <:+: characters := by
  induction characters with
  | nil => simp [occursIn]
  | cons character rest ih =>
      rw [occursIn, Bool.or_eq_true, startsWith_iff, ih, List.infix_cons_iff]

/-! ### The ends of words -/

/-- Whether a word ends between what stands before (nearest first) and what follows. -/
def endsWord (before after : List Char) : Bool := nextIsCased before && !nextIsCased after

theorem nextIsCased_append (near far : List Char) :
    nextIsCased (near ++ far) =
      if near.all isCaseIgnorable then nextIsCased far else nextIsCased near := by
  unfold nextIsCased
  induction near with
  | nil => rfl
  | cons character rest ih =>
      by_cases ignorable : isCaseIgnorable character = true
      · simp only [List.cons_append, List.dropWhile_cons, ignorable, if_true, List.all_cons,
          Bool.true_and]
        exact ih
      · simp [ignorable]

/-- What lies beyond a character that casing does not look through does not matter. -/
theorem endsWord_append {before after : List Char} (outside beyond : List Char)
    (solid : before.all isCaseIgnorable = false) (solid' : after.all isCaseIgnorable = false) :
    endsWord (before ++ outside) (after ++ beyond) = endsWord before after := by
  simp [endsWord, nextIsCased_append, solid, solid']

theorem length_lowerBetween (before before' after after' : List Char) (character : Char) :
    (lowerBetween before character after).length =
      (lowerBetween before' character after').length := by
  unfold lowerBetween
  split
  · rfl
  · split
    · split <;> split <;> rfl
    · rfl

theorem lowerBetween_eq_iff (before before' after after' : List Char) (character : Char) :
    lowerBetween before character after = lowerBetween before' character after' ↔
      (character = 'Σ' → endsWord before after = endsWord before' after') := by
  by_cases sigma : character = 'Σ'
  · subst sigma
    have form (before after : List Char) :
        lowerBetween before 'Σ' after = if endsWord before after then ['ς'] else ['σ'] := rfl
    rw [form, form]
    cases endsWord before after <;> cases endsWord before' after' <;> simp
  · simp [lowerBetween, sigma]

/-! ### Parts of a text -/

/-- The small form of a part of a text, between what stands before it (nearest first) and what
follows it. -/
def lowerWithin (before : List Char) (part after : List Char) : List Char :=
  match part with
  | [] => []
  | character :: rest =>
      lowerBetween before character (rest ++ after) ++ lowerWithin (character :: before) rest after

theorem lowerFrom_append (before part after : List Char) :
    lowerFrom before (part ++ after) =
      lowerWithin before part after ++ lowerFrom (part.reverse ++ before) after := by
  induction part generalizing before with
  | nil => rfl
  | cons character rest ih =>
      rw [List.cons_append, lowerFrom, ih, lowerWithin, List.append_assoc, List.reverse_cons,
        List.append_assoc]
      rfl

theorem length_lowerWithin (before before' part after : List Char) :
    (lowerWithin before part after).length = (lowerFrom before' part).length := by
  induction part generalizing before before' with
  | nil => rfl
  | cons character rest ih =>
      rw [lowerWithin, lowerFrom, List.length_append, List.length_append,
        length_lowerBetween before before' (rest ++ after) rest, ih]

/-- A sigma of a part ends a word in the part alone and not in the whole text, or in the whole text
and not in the part. -/
def SigmaTurns (before part after : List Char) : Prop :=
  ∃ front rest, part = front ++ 'Σ' :: rest ∧
    endsWord front.reverse rest ≠ endsWord (front.reverse ++ before.reverse) (rest ++ after)

/-- By induction on the part, with what has been seen of it as a parameter. -/
theorem lowerWithin_eq_lowerFrom_iff (seen outside part after : List Char) :
    lowerWithin (seen ++ outside) part after = lowerFrom seen part ↔
      ∀ front rest, part = front ++ 'Σ' :: rest →
        endsWord (front.reverse ++ seen) rest =
          endsWord (front.reverse ++ (seen ++ outside)) (rest ++ after) := by
  induction part generalizing seen with
  | nil => simp [lowerWithin, lowerFrom]
  | cons character tail ih =>
      have same := length_lowerBetween (seen ++ outside) seen (tail ++ after) tail character
      have parts : lowerWithin (seen ++ outside) (character :: tail) after =
          lowerFrom seen (character :: tail) ↔
            lowerBetween (seen ++ outside) character (tail ++ after) =
                lowerBetween seen character tail ∧
              lowerWithin (character :: (seen ++ outside)) tail after =
                lowerFrom (character :: seen) tail := by
        rw [lowerWithin, lowerFrom]
        constructor
        · intro whole
          exact List.append_inj whole same
        · intro both
          rw [both.1, both.2]
      rw [parts, lowerBetween_eq_iff, ← List.cons_append, ih]
      constructor
      · intro both front rest split
        cases front with
        | nil =>
            cases split
            exact (both.1 rfl).symm
        | cons first front =>
            cases split
            simpa using both.2 front rest rfl
      · intro all
        constructor
        · intro sigma
          rw [sigma] at all
          exact (all [] tail rfl).symm
        · intro front rest split
          simpa using all (character :: front) rest (by rw [split]; rfl)

theorem lowerWithin_eq_lowerChars_iff (before part after : List Char) :
    lowerWithin before.reverse part after = lowerChars part ↔ ¬SigmaTurns before part after := by
  have whole := lowerWithin_eq_lowerFrom_iff [] before.reverse part after
  simp only [List.nil_append, List.append_nil] at whole
  rw [lowerChars, whole]
  unfold SigmaTurns
  push Not
  rfl

instance (before part after : List Char) : Decidable (SigmaTurns before part after) :=
  decidable_of_iff (¬lowerWithin before.reverse part after = lowerChars part)
    (by rw [lowerWithin_eq_lowerChars_iff, not_not])

/-- A text in small letters, split before and after a part. -/
theorem lowerChars_split (before part after : List Char) :
    lowerChars (before ++ part ++ after) =
      lowerWithin [] before (part ++ after) ++ (lowerWithin before.reverse part after ++
        lowerFrom (part.reverse ++ before.reverse) after) := by
  rw [lowerChars, List.append_assoc, lowerFrom_append, List.append_nil, lowerFrom_append]

/-- The small form of a part stands in the place of the part unless a sigma turns. -/
theorem lowerChars_stands_iff (before part after : List Char) :
    lowerChars part <+: (lowerChars (before ++ part ++ after)).drop (lowerChars before).length ↔
      ¬SigmaTurns before part after := by
  have place : (lowerChars before).length = (lowerWithin [] before (part ++ after)).length :=
    (length_lowerWithin [] [] before (part ++ after)).symm
  have length : (lowerChars part).length = (lowerWithin before.reverse part after).length :=
    (length_lowerWithin before.reverse [] part after).symm
  rw [lowerChars_split, place, List.drop_left, ← lowerWithin_eq_lowerChars_iff]
  constructor
  · intro starts
    rw [List.prefix_iff_eq_take, length, List.take_left] at starts
    exact starts.symm
  · intro same
    rw [same]
    exact List.prefix_append _ _

/-- Only the first sigma and the last one of a part can turn, and only with nothing before it or
behind it that casing does not look through. -/
theorem SigmaTurns.outermost {before part after : List Char} (turns : SigmaTurns before part after) :
    ∃ front rest, part = front ++ 'Σ' :: rest ∧
      (front.all isCaseIgnorable = true ∨ rest.all isCaseIgnorable = true) := by
  obtain ⟨front, rest, split, differ⟩ := turns
  refine ⟨front, rest, split, ?_⟩
  by_contra inner
  rw [not_or, Bool.not_eq_true, Bool.not_eq_true] at inner
  have solid : front.reverse.all isCaseIgnorable = false := by
    rw [List.all_reverse]
    exact inner.1
  exact differ (endsWord_append before.reverse after solid inner.2).symm

end ChatFlow.Text

namespace ChatFlow.Trigger

open Text

variable {keyword text : String}

/-- The trimmed keyword. -/
def stem (keyword : String) : List Char := trimBlanks keyword.toList

theorem keywordMatches_blank (blank : stem keyword = []) (mode : MatchMode) :
    keywordMatches (some keyword) text mode = .ok false := by
  have empty : (trimBlanks keyword.toList).isEmpty = true := by
    rw [List.isEmpty_iff]
    exact blank
  simp [keywordMatches, empty]

section

variable (filled : stem keyword ≠ [])

include filled

theorem keywordMatches_contains : keywordMatches (some keyword) text .contains = .ok true ↔
    lowerChars (stem keyword) <:+: lowerChars text.toList := by
  have solid : (trimBlanks keyword.toList).isEmpty = false := by
    rw [List.isEmpty_eq_false_iff]
    exact filled
  simp [keywordMatches, solid, occursIn_iff, stem]

theorem keywordMatches_startsWith : keywordMatches (some keyword) text .startsWith = .ok true ↔
    lowerChars (stem keyword) <+: lowerChars text.toList := by
  have solid : (trimBlanks keyword.toList).isEmpty = false := by
    rw [List.isEmpty_eq_false_iff]
    exact filled
  simp [keywordMatches, solid, startsWith_iff, stem]

theorem keywordMatches_exact : keywordMatches (some keyword) text .exact = .ok true ↔
    lowerChars text.toList = lowerChars (stem keyword) := by
  have solid : (trimBlanks keyword.toList).isEmpty = false := by
    rw [List.isEmpty_eq_false_iff]
    exact filled
  simp [keywordMatches, solid, stem]

end

theorem startsWith_of_exact (found : keywordMatches (some keyword) text .exact = .ok true) :
    keywordMatches (some keyword) text .startsWith = .ok true := by
  by_cases blank : stem keyword = []
  · rw [keywordMatches_blank blank] at found
    cases found
  · have same := (keywordMatches_exact blank).mp found
    apply (keywordMatches_startsWith blank).mpr
    exact ⟨[], by rw [List.append_nil, same]⟩

theorem contains_of_startsWith (found : keywordMatches (some keyword) text .startsWith = .ok true) :
    keywordMatches (some keyword) text .contains = .ok true := by
  by_cases blank : stem keyword = []
  · rw [keywordMatches_blank blank] at found
    cases found
  · rw [keywordMatches_startsWith blank] at found
    rw [keywordMatches_contains blank]
    exact found.isInfix

/-- A keyword that stands in a message is found there, unless one of its sigmas turns; at the start
of a message it is found just then. Only an outermost sigma turns. A match in one mode is a match in
every wider mode. -/
theorem literal_keywords_match_unless_sigma_turns (keyword : String) (before after : List Char)
    (filled : stem keyword ≠ []) :
    (¬SigmaTurns before (stem keyword) after →
      keywordMatches (some keyword) (String.ofList (before ++ stem keyword ++ after)) .contains =
        .ok true) ∧
    (keywordMatches (some keyword) (String.ofList (stem keyword ++ after)) .startsWith = .ok true ↔
      ¬SigmaTurns [] (stem keyword) after) ∧
    (SigmaTurns before (stem keyword) after → ∃ front rest,
      stem keyword = front ++ 'Σ' :: rest ∧
        (front.all isCaseIgnorable = true ∨ rest.all isCaseIgnorable = true)) ∧
    ∀ text, (keywordMatches (some keyword) text .exact = .ok true →
        keywordMatches (some keyword) text .startsWith = .ok true) ∧
      (keywordMatches (some keyword) text .startsWith = .ok true →
        keywordMatches (some keyword) text .contains = .ok true) := by
  have standing := lowerChars_stands_iff before (stem keyword) after
  have leading := lowerChars_stands_iff [] (stem keyword) after
  refine ⟨?_, ?_, SigmaTurns.outermost, fun text => ⟨startsWith_of_exact, contains_of_startsWith⟩⟩
  · intro still
    rw [keywordMatches_contains filled, String.toList_ofList]
    exact (standing.mpr still).isInfix.trans (List.drop_suffix _ _).isInfix
  · rw [keywordMatches_startsWith filled, String.toList_ofList]
    exact leading

theorem literal_keywords_match_unless_sigma_turns_word :
    stem " ΠΡΟΣ " ≠ [] ∧
    keywordMatches (some " ΠΡΟΣ ") "ΕΛΑ ΠΡΟΣ ΤΑ ΕΔΩ" .contains = .ok true := by
  have filled : stem " ΠΡΟΣ " ≠ [] := by decide
  have still : ¬SigmaTurns "ΕΛΑ ".toList (stem " ΠΡΟΣ ") " ΤΑ ΕΔΩ".toList := by decide
  exact ⟨filled, (literal_keywords_match_unless_sigma_turns " ΠΡΟΣ " "ΕΛΑ ".toList " ΤΑ ΕΔΩ".toList
    filled).1 still⟩

/-- The keyword is the first half of the message, and is found neither there nor at its start. -/
theorem keyword_missed_at_start_of_word :
    stem "ΠΡΟΣ" ≠ [] ∧ stem "ΠΡΟΣ" ++ "ΦΟΡΑ".toList = "ΠΡΟΣΦΟΡΑ".toList ∧
    keywordMatches (some "ΠΡΟΣ") "ΠΡΟΣΦΟΡΑ" .contains = .ok false ∧
    keywordMatches (some "ΠΡΟΣ") "ΠΡΟΣΦΟΡΑ" .startsWith = .ok false := by
  decide

end ChatFlow.Trigger

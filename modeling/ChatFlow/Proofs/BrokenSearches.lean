import ChatFlow.Proofs.PatternFaults
import ChatFlow.Proofs.TriggeredFlows
/-
Searches that a keyword breaks off. A keyword that is refused as a pattern is skipped; one whose reading
fails otherwise breaks off the search that comes to it. A search that comes to none finds what it finds
when the flows lose all keywords that are no patterns.
-/

set_option autoImplicit false

namespace ChatFlow

open Text

/-! ### Keywords -/

namespace Trigger

variable {mode : MatchMode} {connection : Option String} {text : String} {fault : Fault}

/-- What is read as a pattern of a keyword. -/
def patternOf (keyword : Option String) : List Char := trimBlanks (keyword.getD "").toList

/-- A keyword that is to be read as a pattern breaks off the search that comes to it. -/
inductive Breaks (keyword : Option String) : MatchMode → Fault → Prop
  | large (read : Pattern.read (patternOf keyword) = .error .repetitionTooLarge) :
      Breaks keyword .regex .repetitionTooLarge
  | unreadable (read : Pattern.read (patternOf keyword) = .error .unreadable) :
      Breaks keyword .regex .unreadableNumeral

/-- Whether a keyword can be matched: it is a pattern, where it is to be read as one. -/
def isUsable (mode : MatchMode) (keyword : String) : Bool :=
  mode != .regex || (Pattern.read (patternOf (some keyword))).isOk

theorem keywordMatches_plain (keyword : Option String) (plain : mode ≠ .regex) :
    ∃ found, keywordMatches keyword text mode = .ok found := by
  unfold keywordMatches
  dsimp only
  split
  · exact ⟨_, rfl⟩
  · cases mode with
    | regex => exact absurd rfl plain
    | contains | startsWith | exact => exact ⟨_, rfl⟩

theorem keywordMatches_regex (keyword : Option String) :
    keywordMatches keyword text .regex = if (patternOf keyword).isEmpty then .ok false
      else patternMatches (patternOf keyword) text.toList := rfl

theorem keywordMatches_of_misread {keyword : Option String} {error : PatternError}
    (misread : Pattern.read (patternOf keyword) = .error error) :
    keywordMatches keyword text .regex = patternMatches (patternOf keyword) text.toList := by
  rw [keywordMatches_regex]
  refine if_neg fun nothing => ?_
  rw [List.isEmpty_iff.mp nothing] at misread
  cases misread

theorem keywordMatches_error_iff {keyword : Option String} :
    keywordMatches keyword text mode = .error fault ↔ Breaks keyword mode fault := by
  constructor
  · intro failed
    by_cases regex : mode = .regex
    · subst regex
      cases read : Pattern.read (patternOf keyword) with
      | ok pattern =>
          rw [keywordMatches_regex, patternMatches, read] at failed
          split at failed <;> cases failed
      | error error =>
          rw [keywordMatches_of_misread read, patternMatches, read] at failed
          cases error with
          | refused => cases failed
          | repetitionTooLarge =>
              cases failed
              exact .large read
          | unreadable =>
              cases failed
              exact .unreadable read
    · obtain ⟨found, decided⟩ := @keywordMatches_plain _ text keyword regex
      rw [decided] at failed
      cases failed
  · intro breaks
    cases breaks with
    | large read => rw [keywordMatches_of_misread read, patternMatches, read]
    | unreadable read => rw [keywordMatches_of_misread read, patternMatches, read]

theorem Breaks.not_conflict {keyword : Option String} (breaks : Breaks keyword mode fault) :
    fault.isConflict = false := by
  cases breaks <;> rfl

end Trigger

/-- A flow without the keywords that cannot be matched. -/
def Flow.pruned (flow : Flow) : Flow :=
  { flow with keywords := flow.keywords.filter (Trigger.isUsable flow.matchMode) }

/-! ### Searches -/

namespace Trigger

variable {mode : MatchMode} {connection : Option String} {text : String} {fault : Fault}

theorem anyMatches_append {before rest : List String}
    (passed : ∀ other ∈ before, keywordMatches (some other) text mode = .ok false) :
    anyMatches mode text (before ++ rest) = anyMatches mode text rest := by
  induction before with
  | nil => rfl
  | cons keyword before ih =>
      rw [List.forall_mem_cons] at passed
      exact (anyMatches_passed _ passed.1).trans (ih passed.2)

theorem first?_append {before rest : List Flow}
    (passed : ∀ other ∈ before, verdict connection text other = .ok false) :
    first? connection text (before ++ rest) = first? connection text rest := by
  induction before with
  | nil => rfl
  | cons flow before ih =>
      rw [List.forall_mem_cons] at passed
      exact (first?_passed _ passed.1).trans (ih passed.2)

/-- A search among flows comes to a keyword that breaks it off. -/
inductive BrokenOff (connection : Option String) (text : String) (fault : Fault) :
    List Flow → Prop
  | here {before after : List Flow} {flow : Flow} {ahead behind : List String} {keyword : String}
      (passed : ∀ other ∈ before, verdict connection text other = .ok false)
      (runs : flow.acceptsConnection connection = true)
      (keywords : flow.keywords = ahead ++ keyword :: behind)
      (unmatched : ∀ other ∈ ahead, keywordMatches (some other) text flow.matchMode = .ok false)
      (breaks : Breaks (some keyword) flow.matchMode fault) :
      BrokenOff connection text fault (before ++ flow :: after)

theorem BrokenOff.not_conflict {flows : List Flow} (broken : BrokenOff connection text fault flows) :
    fault.isConflict = false := by
  cases broken with
  | here _ _ _ _ breaks => exact breaks.not_conflict

theorem first?_error_iff {flows : List Flow} :
    first? connection text flows = .error fault ↔ BrokenOff connection text fault flows := by
  constructor
  · intro failed
    rcases first?_splits connection text flows with
      ⟨none, _⟩ | ⟨before, flow, after, rfl, passed, decides, same⟩
    · rw [failed] at none
      cases none
    · have broken : verdict connection text flow = .error fault := by
        rw [failed] at same
        cases decided : verdict connection text flow with
        | ok found =>
            rw [decided] at same
            cases same
        | error other =>
            rw [decided] at same
            cases same
            rfl
      unfold verdict at broken
      split at broken
      · next runs =>
          rcases anyMatches_splits flow.matchMode text flow.keywords with
            ⟨none, _⟩ | ⟨ahead, keyword, behind, keywords, unmatched, _, told⟩
          · rw [matchesText, none] at broken
            cases broken
          · have failed : keywordMatches (some keyword) text flow.matchMode = .error fault :=
              told.symm.trans broken
            exact .here passed runs keywords unmatched (keywordMatches_error_iff.mp failed)
      · cases broken
  · rintro @⟨before, after, flow, ahead, behind, keyword, passed, runs, keywords, unmatched, breaks⟩
    have failed : keywordMatches (some keyword) text flow.matchMode = .error fault :=
      keywordMatches_error_iff.mpr breaks
    have told : verdict connection text flow = .error fault := by
      rw [verdict, if_pos runs, matchesText, keywords, anyMatches_append unmatched,
        anyMatches_decided behind (by simp [failed]), failed]
    rw [first?_append passed, first?_decided after (by simp [told]), told]
    rfl

end Trigger

end ChatFlow

import Mathlib.Algebra.BigOperators.Intervals
import Mathlib.Tactic.IntervalCases
import ChatFlow.Reply.Format
/-
Taxpayer numbers and their check digits. The rule speaks of the values of the digits, whatever stands
between them and whatever script they are written in; what is accepted is what follows the rule, and
besides one digit written eleven times in more than one script.
-/

set_option autoImplicit false

namespace ChatFlow.Reply

open Text

/-! ### The rule -/

/-- The values of the digits of a text, in order. -/
def digitValues (text : List Char) : List Nat := text.filterMap digitValue?

/-- The check digit that belongs at a place of a row of digits. -/
def checkAt (place : Nat) (digits : List Nat) : Nat :=
  (∑ index ∈ Finset.range place, digits.getD index 0 * (place + 1 - index)) * 10 % 11 % 10

structure FollowsRule (digits : List Nat) : Prop where
  eleven : digits.length = 11
  varied : ∃ first ∈ digits, ∃ second ∈ digits, first ≠ second
  penultimate : digits.getD 9 0 = checkAt 9 digits
  last : digits.getD 10 0 = checkAt 10 digits

/-- One value stands in all eleven places, but not one character. -/
structure RepeatsInScripts (text : List Char) : Prop where
  eleven : (digitValues text).length = 11
  oneValue : ∀ first ∈ digitValues text, ∀ second ∈ digitValues text, first = second
  scripts : ∃ first ∈ text.filter isDigit, ∃ second ∈ text.filter isDigit, first ≠ second

theorem followsRule_iff (digits : List Nat) : FollowsRule digits ↔
    digits.length = 11 ∧ (∃ first ∈ digits, ∃ second ∈ digits, first ≠ second) ∧
      digits.getD 9 0 = checkAt 9 digits ∧ digits.getD 10 0 = checkAt 10 digits :=
  ⟨fun rule => ⟨rule.eleven, rule.varied, rule.penultimate, rule.last⟩,
    fun ⟨eleven, varied, penultimate, last⟩ => ⟨eleven, varied, penultimate, last⟩⟩

instance (digits : List Nat) : Decidable (FollowsRule digits) :=
  decidable_of_iff' _ (followsRule_iff digits)

theorem repeatsInScripts_iff (text : List Char) : RepeatsInScripts text ↔
    (digitValues text).length = 11 ∧
      (∀ first ∈ digitValues text, ∀ second ∈ digitValues text, first = second) ∧
      ∃ first ∈ text.filter isDigit, ∃ second ∈ text.filter isDigit, first ≠ second :=
  ⟨fun repeats => ⟨repeats.eleven, repeats.oneValue, repeats.scripts⟩,
    fun ⟨eleven, oneValue, scripts⟩ => ⟨eleven, oneValue, scripts⟩⟩

instance (text : List Char) : Decidable (RepeatsInScripts text) :=
  -- the digits of the text are searched for different ones, and not all characters there are
  letI (first : Char) : Decidable (∃ second ∈ text.filter isDigit, first ≠ second) :=
    List.decidableBEx _ _
  letI : Decidable (∃ first ∈ text.filter isDigit, ∃ second ∈ text.filter isDigit, first ≠ second) :=
    List.decidableBEx _ _
  decidable_of_iff' _ (repeatsInScripts_iff text)

/-! ### Digits and their values -/

theorem digitValue?_lt {character : Char} {value : Nat} (found : digitValue? character = some value) :
    value < 10 := by
  unfold digitValue? at found
  rw [Option.map_eq_some_iff] at found
  obtain ⟨first, among, rfl⟩ := found
  have between := List.find?_some among
  simp only [Bool.and_eq_true, decide_eq_true_eq] at between
  omega

theorem map_filter_isDigit (text : List Char) :
    (text.filter isDigit).map (fun digit => (digitValue? digit).getD 0) = digitValues text := by
  unfold digitValues
  induction text with
  | nil => rfl
  | cons character rest ih =>
      cases found : digitValue? character with
      | none => simp [isDigit, found, ih]
      | some value => simp [isDigit, found, ih]

theorem length_filter_isDigit (text : List Char) :
    (text.filter isDigit).length = (digitValues text).length := by
  rw [← map_filter_isDigit, List.length_map]

theorem digitValues_lt {text : List Char} : ∀ value ∈ digitValues text, value < 10 := by
  intro value member
  unfold digitValues at member
  rw [List.mem_filterMap] at member
  obtain ⟨character, _, found⟩ := member
  exact digitValue?_lt found

/-! ### Check digits -/

theorem weightedSum_eq_sum (weight : Nat) (digits : List Nat) :
    weightedSum weight digits =
      ∑ index ∈ Finset.range digits.length, digits.getD index 0 * (weight - index) := by
  induction digits generalizing weight with
  | nil => rfl
  | cons digit rest ih =>
      rw [weightedSum, ih, List.length_cons, Finset.sum_range_succ', Nat.add_comm]
      simp only [List.getD_cons_succ, List.getD_cons_zero, Nat.sub_zero]
      congr 1
      apply Finset.sum_congr rfl
      intro index _
      congr 1
      omega

/-- The check digit is worked out from the digits before its place. -/
theorem checkDigit_take {place : Nat} {digits : List Nat} (long : place ≤ digits.length) :
    checkDigit (digits.take place) = checkAt place digits := by
  have length : (digits.take place).length = place := by
    rw [List.length_take]
    omega
  unfold checkDigit checkAt
  rw [weightedSum_eq_sum, length]
  have same : ∑ index ∈ Finset.range place, (digits.take place).getD index 0 * (place + 1 - index) =
      ∑ index ∈ Finset.range place, digits.getD index 0 * (place + 1 - index) := by
    apply Finset.sum_congr rfl
    intro index within
    rw [Finset.mem_range] at within
    simp [List.getD_eq_getElem?_getD, within]
  rw [same]
  -- a remainder of ten stands for the check digit zero
  have bound := Nat.mod_lt
    ((∑ index ∈ Finset.range place, digits.getD index 0 * (place + 1 - index)) * 10)
    (by decide : 0 < 11)
  simp only [beq_iff_eq]
  split
  · omega
  · omega

theorem checks_iff {place : Nat} {digits : List Nat} (within : place < digits.length) :
    some (checkDigit (digits.take place)) = digits[place]? ↔
      digits.getD place 0 = checkAt place digits := by
  rw [checkDigit_take (by omega), List.getD_eq_getElem?_getD, List.getElem?_eq_getElem within]
  simp only [Option.some.injEq, Option.getD_some]
  exact eq_comm

/-- Eleven times the same digit: the digit is its own check digit. -/
theorem checkAt_replicate {value : Nat} (small : value < 10) :
    checkAt 9 (List.replicate 11 value) = value ∧ checkAt 10 (List.replicate 11 value) = value := by
  -- the weights sum up to 54 and to 65, and ten times either leaves a remainder of one
  interval_cases value <;> decide

/-! ### What is accepted -/

theorem all_eq_head_iff {α : Type} [DecidableEq α] (items : List α) :
    (items.all fun item => some item == items.head?) = true ↔
      ∀ first ∈ items, ∀ second ∈ items, first = second := by
  cases items with
  | nil => simp
  | cons head rest =>
      simp only [List.all_eq_true, List.head?_cons, beq_iff_eq, Option.some.injEq]
      constructor
      · intro same first member second present
        rw [same first member, same second present]
      · intro same item member
        exact same item member head List.mem_cons_self

theorem isTaxpayerNumber_iff (text : List Char) : isTaxpayerNumber text = true ↔
    (digitValues text).length = 11 ∧
      (∃ first ∈ text.filter isDigit, ∃ second ∈ text.filter isDigit, first ≠ second) ∧
      (digitValues text).getD 9 0 = checkAt 9 (digitValues text) ∧
      (digitValues text).getD 10 0 = checkAt 10 (digitValues text) := by
  have differ : (!(text.filter isDigit).all (some · == (text.filter isDigit).head?)) = true ↔
      ∃ first ∈ text.filter isDigit, ∃ second ∈ text.filter isDigit, first ≠ second := by
    rw [Bool.not_eq_true', ← Bool.not_eq_true, all_eq_head_iff]
    push Not
    rfl
  unfold isTaxpayerNumber
  simp only [map_filter_isDigit, length_filter_isDigit, Bool.and_eq_true, beq_iff_eq, differ,
    and_assoc]
  apply and_congr_right
  intro eleven
  rw [checks_iff (by omega), checks_iff (by omega)]

/-- Digits of different values are different digits. -/
theorem characters_differ {text : List Char}
    (varied : ∃ first ∈ digitValues text, ∃ second ∈ digitValues text, first ≠ second) :
    ∃ first ∈ text.filter isDigit, ∃ second ∈ text.filter isDigit, first ≠ second := by
  rw [← map_filter_isDigit] at varied
  obtain ⟨value, member, other, present, different⟩ := varied
  rw [List.mem_map] at member present
  obtain ⟨first, stands, rfl⟩ := member
  obtain ⟨second, follows, rfl⟩ := present
  exact ⟨first, stands, second, follows, fun same => different (by rw [same])⟩

theorem checks_of_oneValue {digits : List Nat} (eleven : digits.length = 11)
    (oneValue : ∀ first ∈ digits, ∀ second ∈ digits, first = second)
    (small : ∀ digit ∈ digits, digit < 10) :
    digits.getD 9 0 = checkAt 9 digits ∧ digits.getD 10 0 = checkAt 10 digits := by
  have filled : digits ≠ [] := by
    intro empty
    rw [empty] at eleven
    cases eleven
  have repeated : digits = List.replicate 11 (digits.head filled) :=
    List.eq_replicate_iff.mpr
      ⟨eleven, fun digit member => oneValue digit member _ (List.head_mem filled)⟩
  have checks := checkAt_replicate (small _ (List.head_mem filled))
  rw [repeated]
  simpa [List.getD_eq_getElem?_getD] using ⟨checks.1.symm, checks.2.symm⟩

theorem isTaxpayerNumber_iff_rule (text : List Char) : isTaxpayerNumber text = true ↔
    FollowsRule (digitValues text) ∨ RepeatsInScripts text := by
  rw [isTaxpayerNumber_iff, followsRule_iff, repeatsInScripts_iff]
  by_cases varied : ∃ first ∈ digitValues text, ∃ second ∈ digitValues text, first ≠ second
  · have differ := characters_differ varied
    have several : ¬∀ first ∈ digitValues text, ∀ second ∈ digitValues text, first = second := by
      push Not
      exact varied
    simp only [varied, differ, several, true_and, false_and, and_false, or_false]
  · have oneValue : ∀ first ∈ digitValues text, ∀ second ∈ digitValues text, first = second := by
      push Not at varied
      exact varied
    constructor
    · intro accepted
      exact Or.inr ⟨accepted.1, oneValue, accepted.2.1⟩
    · intro either
      rcases either with rule | repeats
      · exact absurd rule.2.1 varied
      · exact ⟨repeats.1, repeats.2.2, checks_of_oneValue repeats.1 oneValue digitValues_lt⟩

/-- A text is accepted just if the values of its digits follow the rule, or all have one value and
are of several scripts; so texts with the same values are judged alike, but for such repetitions. -/
theorem taxpayer_numbers_checked_unless_repeated_in_scripts (text : List Char) :
    (isTaxpayerNumber text = true ↔ FollowsRule (digitValues text) ∨ RepeatsInScripts text) ∧
    (¬RepeatsInScripts text →
      (isTaxpayerNumber text = true ↔ FollowsRule (digitValues text)) ∧
      ∀ other, digitValues other = digitValues text → ¬RepeatsInScripts other →
        isTaxpayerNumber other = isTaxpayerNumber text) := by
  have accepted := isTaxpayerNumber_iff_rule text
  refine ⟨accepted, fun plain => ?_⟩
  have judged : isTaxpayerNumber text = true ↔ FollowsRule (digitValues text) := by
    rw [accepted, or_iff_left plain]
  refine ⟨judged, fun other same unmixed => ?_⟩
  rw [Bool.eq_iff_iff, isTaxpayerNumber_iff_rule other, same, or_iff_left unmixed, judged]

theorem taxpayer_numbers_checked_unless_repeated_in_scripts_wide :
    ¬RepeatsInScripts "529.982.247-25".toList ∧
    isTaxpayerNumber "529.982.247-25".toList = true ∧
    isTaxpayerNumber "５２９９８２２４７２５".toList = true := by
  have plain : ¬RepeatsInScripts "529.982.247-25".toList := by decide
  have judged := (taxpayer_numbers_checked_unless_repeated_in_scripts "529.982.247-25".toList).2 plain
  have accepted : isTaxpayerNumber "529.982.247-25".toList = true := judged.1.mpr (by decide)
  exact ⟨plain, accepted,
    (judged.2 "５２９９８２２４７２５".toList (by decide) (by decide)).trans accepted⟩

/-- Ten ones and a wide one: the digits all have one value, yet the text is accepted. -/
theorem repeated_digit_accepted_in_two_scripts :
    isTaxpayerNumber "1111111111１".toList = true ∧
    ¬FollowsRule (digitValues "1111111111１".toList) := by
  decide

end ChatFlow.Reply

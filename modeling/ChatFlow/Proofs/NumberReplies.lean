import ChatFlow.Proofs.Spellings
/-
Numbers that are asked for and numbers that are compared. A question takes a reply as a number just
if a condition reads a number in it: both let one comma stand for the point, each in its own way. So
what a contact has given as a number is compared as one later on, and what was turned down compares
with nothing.
-/

set_option autoImplicit false

namespace ChatFlow

open Text

/-! ### The decimal comma -/

/-- Where there is one comma, the first one is the only one. -/
theorem Reply.firstCommaToPoint_eq_map {characters : List Char} (one : characters.count ',' = 1) :
    firstCommaToPoint characters =
      characters.map fun character => if character == ',' then '.' else character := by
  induction characters with
  | nil => rfl
  | cons character rest ih =>
      by_cases comma : character = ','
      · subst comma
        have others : ',' ∉ rest := by
          rw [List.count_cons_self, Nat.add_eq_right] at one
          exact List.count_eq_zero.mp one
        have kept : ∀ other ∈ rest, (if (other == ',') = true then '.' else other) = other := by
          intro other member
          have apart : other ≠ ',' := fun same => others (same ▸ member)
          simp [apart]
        rw [List.map_cons, List.map_congr_left kept, List.map_id']
        rfl
      · rw [List.count_cons_of_ne comma] at one
        simp [firstCommaToPoint, comma, ih one]

theorem Reply.isNumber_eq (characters : List Char) :
    isNumber characters = (Number.readReal? (Condition.commaToPoint characters)).isSome := by
  unfold isNumber Condition.commaToPoint
  by_cases decimal : (characters.count ',' == 1 && !characters.contains '.') = true
  · have one : characters.count ',' = 1 := by
      simpa using (Bool.and_eq_true_iff.mp decimal).1
    simp only [if_pos decimal, firstCommaToPoint_eq_map one]
  · simp only [if_neg decimal]

namespace Condition

/-! ### Texts that hold a number -/

theorem numberOf?_trim (text : String) : numberOf? (trim text) = numberOf? text := by
  unfold numberOf? trim
  rw [String.toList_ofList, trimBlanks, trimBlanks, trimBy_trimBy]

/-- A reply is taken as a number just if it is read as one. -/
theorem isValid_number_eq (reply : String) :
    Reply.isValid (some reply) .number = (numberOf? reply).isSome := by
  unfold Reply.isValid numberOf?
  dsimp only [Option.getD_some]
  cases trimBlanks reply.toList with
  | nil => rfl
  | cons first rest => exact Reply.isNumber_eq (first :: rest)

/-- A text stands for a number wherever it is compared with one, as the first or as the second. -/
structure ComparesAs (text : String) (value : Binary64) : Prop where
  first : ∀ other number, numberOf? other = some number →
    holdsFor .greaterThan text other = number.lt value ∧
      holdsFor .lessThan text other = value.lt number
  second : ∀ other number, numberOf? other = some number →
    holdsFor .greaterThan other text = value.lt number ∧
      holdsFor .lessThan other text = number.lt value

/-- A text is neither greater nor less than any text. -/
structure ComparesNever (text : String) : Prop where
  first : ∀ other, holdsFor .greaterThan text other = false ∧ holdsFor .lessThan text other = false
  second : ∀ other, holdsFor .greaterThan other text = false ∧ holdsFor .lessThan other text = false

theorem comparesAs_of_number {text : String} {value : Binary64}
    (read : numberOf? text = some value) : ComparesAs text value := by
  constructor
  · intro other number found
    simp [holdsFor, compareNumbers, read, found]
  · intro other number found
    simp [holdsFor, compareNumbers, read, found]

theorem comparesNever_of_none {text : String} (unread : numberOf? text = none) :
    ComparesNever text := by
  have second (test : Binary64 → Binary64 → Bool) (other : String) :
      compareNumbers test other text = false := by
    unfold compareNumbers
    rw [unread]
    cases numberOf? other <;> rfl
  constructor
  · intro other
    simp [holdsFor, compareNumbers, unread]
  · intro other
    exact ⟨second (fun left right => right.lt left) other, second Binary64.lt other⟩

end Condition

/-! ### Questions for a number -/

namespace Evaluation

open Condition Interpolation

/-- A session goes on at a question for a number with this reply to it. -/
structure AnswersNumber (reply : String) (content : InputContent) (context : NodeContext) :
    Prop where
  asked : content.form = .number
  resumed : context.isResume = true
  replied : context.inboundText = some reply

variable {reply : String} {content : InputContent} {context : NodeContext}

theorem AnswersNumber.isValid_eq (answers : AnswersNumber reply content context) :
    Reply.isValid (some (trim (context.inboundText.getD ""))) content.form =
      (numberOf? reply).isSome := by
  rw [answers.replied, answers.asked, isValid_number_eq, Option.getD_some, numberOf?_trim]

theorem AnswersNumber.stored (answers : AnswersNumber reply content context)
    (taken : (numberOf? reply).isSome = true) (isBare : IsBare content.variableName) :
    Variables.ReadsAs (evaluateInput content context).bag content.variableName (trim reply) := by
  have sets := evaluateInput_sets answers.resumed (Or.inr (answers.isValid_eq.trans taken))
  rw [answers.replied, Option.getD_some] at sets
  refine Variables.readsAs_of_textOf isBare ?_
  unfold Variables.textOf Variables.resolve?
  rw [sets.own]
  rfl

theorem AnswersNumber.turnedDown (answers : AnswersNumber reply content context)
    (refused : (numberOf? reply).isSome = false) :
    (evaluateInput content context).bag = context.bag ∨
      (evaluateInput content context).bag = Table.put content.variableName "" context.bag := by
  have invalid := answers.isValid_eq.trans refused
  unfold evaluateInput
  rw [answers.resumed]
  simp only [Bool.not_true, Bool.false_eq_true, if_false, invalid]
  split
  · exact Or.inr (advance_bag _ _ _ _)
  · exact Or.inl rfl

/-- A reply is taken as a number just if conditions read a number in it. As that number it is
compared, also where a question has stored it. What is turned down compares with nothing, nor does
the empty text that a question may store instead. -/
theorem numbers_taken_are_compared (reply : String) :
    (Reply.isValid (some reply) .number = true ↔ ∃ value, numberOf? reply = some value) ∧
    (∀ value, numberOf? reply = some value → ComparesAs reply value ∧
      ∀ content context, AnswersNumber reply content context → IsBare content.variableName →
        ∃ stored, ComparesAs stored value ∧
          Variables.ReadsAs (evaluateInput content context).bag content.variableName stored) ∧
    (Reply.isValid (some reply) .number = false → ComparesNever reply ∧
      ∀ content context, AnswersNumber reply content context →
        (evaluateInput content context).bag = context.bag ∨
        (evaluateInput content context).bag = Table.put content.variableName "" context.bag ∧
          ComparesNever "") := by
  rw [isValid_number_eq]
  refine ⟨Option.isSome_iff_exists, fun value read => ⟨comparesAs_of_number read, ?_⟩,
    fun refused => ⟨?_, ?_⟩⟩
  · intro content context answers isBare
    exact ⟨trim reply, comparesAs_of_number ((numberOf?_trim reply).trans read),
      answers.stored (read ▸ rfl) isBare⟩
  · exact comparesNever_of_none (by simpa using refused)
  · intro content context answers
    refine (answers.turnedDown refused).imp_right fun empty => ⟨empty, ?_⟩
    exact comparesNever_of_none (by decide)

/-- A question for a weight, and a session that goes on there with a reply. -/
def weightAsked : InputContent := ⟨none, "peso", .number, none, true, []⟩

def weighed (reply : String) : NodeContext :=
  { consultation with inboundText := some reply, isResume := true }

/-- One and a half, with a comma and between blanks, is stored and compared; a thousand and a half
with two marks is not. -/
theorem numbers_taken_are_compared_comma :
    Reply.isValid (some " 1,5\n") .number = true ∧
    (∃ stored, Variables.ReadsAs (evaluateInput weightAsked (weighed " 1,5\n")).bag "peso" stored ∧
      holdsFor .greaterThan stored "1.25" = true ∧ holdsFor .lessThan stored "1,75" = true) ∧
    Reply.isValid (some "1.000,5") .number = false ∧ ComparesNever "1.000,5" := by
  obtain ⟨taken, compared, _⟩ := numbers_taken_are_compared " 1,5\n"
  have read : numberOf? " 1,5\n" = some (Binary64.ofRatio false 3 2) := by decide +kernel
  have isName : IsName "peso" := ⟨by decide, List.all_eq_true.mp (by decide +kernel)⟩
  obtain ⟨stored, compares, reads⟩ := (compared _ read).2 weightAsked (weighed " 1,5\n")
    ⟨rfl, rfl, rfl⟩ (isName.isBare rfl)
  have lower : numberOf? "1.25" = some (Binary64.ofRatio false 5 4) := by decide +kernel
  have upper : numberOf? "1,75" = some (Binary64.ofRatio false 7 4) := by decide +kernel
  have refused : Reply.isValid (some "1.000,5") .number = false := by decide +kernel
  refine ⟨taken.mpr ⟨_, read⟩, ⟨stored, reads, ?_, ?_⟩, refused,
    ((numbers_taken_are_compared "1.000,5").2.2 refused).1⟩
  · rw [(compares.first _ _ lower).1]
    decide +kernel
  · rw [(compares.first _ _ upper).2]
    decide +kernel

end Evaluation

end ChatFlow

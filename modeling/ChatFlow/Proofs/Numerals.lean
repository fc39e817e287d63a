import Mathlib.Data.List.DropRight
import Mathlib.Tactic.IntervalCases
import ChatFlow.Json.Printer
import ChatFlow.Number.Reading
/-
Numbers that are read back as they were written. The digits `0` to `9` are neither blank nor a mark, so
that nothing of a written number is dropped when it is read; only one with more digits than a numeral
may have cannot be read any more.
-/

set_option autoImplicit false

namespace ChatFlow

open Text

/-! ### The ten digits -/

theorem mem_of_isDigit {digit : Char} (isDigit : digit.isDigit = true) :
    digit ∈ ['0', '1', '2', '3', '4', '5', '6', '7', '8', '9'] := by
  simp only [Char.isDigit, Bool.and_eq_true, decide_eq_true_eq] at isDigit
  have lower : 48 ≤ digit.toNat := isDigit.1
  have upper : digit.toNat ≤ 57 := isDigit.2
  have same : digit = Char.ofNat digit.toNat := (Char.ofNat_toNat digit).symm
  rw [same]
  generalize digit.toNat = code at lower upper
  interval_cases code <;> decide

/-- A character that a reader of numbers keeps as it is, wherever it stands. -/
structure Kept (character : Char) : Prop where
  solid : isBlank character = false
  same : Number.toAsciiDigit character = character
  unjoined : character ≠ '_'

/-- What a reader sees in one of the ten digits. -/
structure PlainDigit (digit : Char) : Prop extends Kept digit where
  ascii : isAsciiDigit digit = true
  unsigned : digit ≠ '-' ∧ digit ≠ '+'
  value : digitValue? digit = some (digit.toNat - 48)

theorem kept_minus : Kept '-' := ⟨by decide, by decide, by decide⟩

theorem plainDigit_of_isDigit {digit : Char} (isDigit : digit.isDigit = true) :
    PlainDigit digit := by
  have among := mem_of_isDigit isDigit
  simp only [List.mem_cons, List.not_mem_nil, or_false] at among
  rcases among with rfl | rfl | rfl | rfl | rfl | rfl | rfl | rfl | rfl | rfl <;>
    exact ⟨⟨by decide, by decide, by decide⟩, by decide, by decide, by decide⟩

theorem plainDigit_of_mem_toDigits {count : Nat} :
    ∀ digit ∈ Nat.toDigits 10 count, PlainDigit digit := fun _ member =>
  plainDigit_of_isDigit (Nat.isDigit_of_mem_toDigits (by decide) (by decide) member)

/-! ### Trimming -/

section

variable {test : Char → Bool}

/-- Trimmed characters do not end with one that is trimmed. -/
theorem trimBy_ne_append {characters line : List Char} {last : Char} (dropped : test last = true) :
    trimBy test characters ≠ line ++ [last] := by
  intro ends
  have again : (line ++ [last]).rdropWhile test = line ++ [last] := by
    rw [← ends]
    exact List.rdropWhile_idempotent test (trimStartBy test characters)
  rw [List.rdropWhile_concat_pos test line last dropped] at again
  have shorter := (List.rdropWhile_prefix test (l := line)).length_le
  rw [again, List.length_append, List.length_singleton] at shorter
  omega

theorem trimBy_trimBy (test : Char → Bool) (characters : List Char) :
    trimBy test (trimBy test characters) = trimBy test characters := by
  have trimmed : trimBy test characters = (characters.dropWhile test).rdropWhile test := rfl
  have started : (trimBy test characters).dropWhile test = trimBy test characters := by
    -- what is left starts with what is left after trimming the start alone
    obtain ⟨rest, whole⟩ := List.rdropWhile_prefix test (l := characters.dropWhile test)
    rw [← trimmed] at whole
    cases first : trimBy test characters with
    | nil => rfl
    | cons character others =>
        rw [first, List.cons_append] at whole
        have stays := List.head_dropWhile_not (l := characters) test (by simp [← whole])
        simp only [← whole, List.head_cons] at stays
        rw [List.dropWhile_cons_of_neg (by simp [stays])]
  calc trimBy test (trimBy test characters)
      = ((trimBy test characters).dropWhile test).rdropWhile test := rfl
    _ = (trimBy test characters).rdropWhile test := by rw [started]
    _ = trimBy test characters := List.rdropWhile_idempotent test _

end

/-! ### Reading -/

variable {digits : List Char}

theorem trimBy_of_none {test : Char → Bool} {characters : List Char}
    (none : ∀ character ∈ characters, test character = false) :
    trimBy test characters = characters := by
  have kept (part : List Char) (within : part ⊆ characters) : part.dropWhile test = part := by
    cases part with
    | nil => rfl
    | cons first rest =>
        rw [List.dropWhile_cons, none first (within List.mem_cons_self)]
        rfl
  unfold trimBy trimStartBy trimEndBy
  rw [kept characters (List.Subset.refl _), kept characters.reverse, List.reverse_reverse]
  exact fun character member => List.mem_reverse.mp member

theorem dropDigitSeparators_of_none {characters : List Char} (before : Bool)
    (none : ∀ character ∈ characters, character ≠ '_') :
    Number.dropDigitSeparators before characters = some characters := by
  induction characters generalizing before with
  | nil => rfl
  | cons character rest ih =>
      obtain ⟨own, others⟩ := List.forall_mem_cons.mp none
      unfold Number.dropDigitSeparators
      split
      · next same => cases same
      · next same =>
          cases same
          exact absurd rfl own
      · next same =>
          cases same
          rw [ih _ others]
          rfl

/-- Characters that a reader keeps are a numeral as they stand. -/
theorem numeral?_of_kept {characters : List Char} (kept : ∀ character ∈ characters, Kept character) :
    Number.numeral? characters = some characters := by
  have solid : ∀ character ∈ characters, isNumberBlank character = false :=
    fun character member => by simp [isNumberBlank, (kept character member).solid]
  unfold Number.numeral?
  rw [trimBy_of_none solid,
    List.map_congr_left fun character member => (kept character member).same, List.map_id']
  exact dropDigitSeparators_of_none _ fun character member => (kept character member).unjoined

theorem splitSign_of_none (none : ∀ digit ∈ digits, digit ≠ '-' ∧ digit ≠ '+') :
    Number.splitSign digits = (false, digits) := by
  unfold Number.splitSign
  split
  · exact absurd rfl (none '-' List.mem_cons_self).1
  · exact absurd rfl (none '+' List.mem_cons_self).2
  · rfl

theorem digitsValue_eq (plain : ∀ digit ∈ digits, PlainDigit digit) :
    digitsValue digits = Nat.ofDigitChars 10 digits 0 := by
  -- by induction on the digits, with what was read before them as a parameter
  have reading (total : Nat) :
      digits.foldl (fun total digit => 10 * total + (digitValue? digit).getD 0) total =
        Nat.ofDigitChars 10 digits total := by
    induction digits generalizing total with
    | nil => rfl
    | cons digit rest ih =>
        obtain ⟨own, others⟩ := List.forall_mem_cons.mp plain
        rw [List.foldl_cons, own.value, ih others, Nat.ofDigitChars_cons]
        rfl
  exact reading 0

theorem digitsValue_toDigits (count : Nat) : digitsValue (Nat.toDigits 10 count) = count := by
  rw [digitsValue_eq plainDigit_of_mem_toDigits, Nat.ofDigitChars_ten_toDigits]

/-- Digits after a sign, or without one, are read as the number that they are. -/
theorem readInt?_of_splitSign {characters : List Char} {negative : Bool}
    (kept : ∀ character ∈ characters, Kept character)
    (split : Number.splitSign characters = (negative, digits)) (filled : digits ≠ [])
    (plain : ∀ digit ∈ digits, PlainDigit digit) (short : digits.length ≤ maxNumeralDigits) :
    Number.readInt? characters =
      some (if negative then -(digitsValue digits : Int) else digitsValue digits) := by
  have all : digits.all isAsciiDigit = true :=
    List.all_eq_true.mpr fun digit member => (plain digit member).ascii
  unfold Number.readInt?
  rw [numeral?_of_kept kept, Option.bind_eq_bind, Option.bind_some, split]
  dsimp only
  rw [all, if_neg (by simpa [filled] using short)]

/-- A number that is written in digits is read as itself, as long as a numeral may be. -/
theorem readInt?_intText {count : Int} (short : count.natAbs < 10 ^ maxNumeralDigits) :
    Number.readInt? (Json.intText count) = some count := by
  have plain := @plainDigit_of_mem_toDigits count.natAbs
  have length : (Nat.toDigits 10 count.natAbs).length ≤ maxNumeralDigits :=
    (Nat.length_toDigits_le_iff (by decide) (by decide)).mpr short
  unfold Json.intText
  split
  · next negative =>
      rw [readInt?_of_splitSign (List.forall_mem_cons.mpr
        ⟨kept_minus, fun digit member => (plain digit member).toKept⟩) rfl (by simp) plain length,
        if_pos rfl, digitsValue_toDigits]
      congr 1
      omega
  · next positive =>
      rw [readInt?_of_splitSign (fun digit member => (plain digit member).toKept)
        (splitSign_of_none fun digit member => (plain digit member).unsigned) (by simp) plain length,
        if_neg Bool.false_ne_true, digitsValue_toDigits]
      congr 1
      omega

end ChatFlow

import Mathlib.Data.List.TakeWhile
import ChatFlow.Reply.Menu
import ChatFlow.Proofs.Numerals
/-
E-mail addresses. A reply passes as one just if, without the blanks around it, it is a local part, an
at sign, a domain name, a point and a label of letters. The domain name may hold points of its own;
as the label holds none, the point before it is the last one.
-/

set_option autoImplicit false

namespace ChatFlow.Reply

open Text

/-! ### The grammar -/

/-- A text is these parts of an address with the marks between them, and nothing else. -/
structure IsWritten (localPart name label text : List Char) : Prop where
  whole : text = localPart ++ '@' :: (name ++ '.' :: label)
  localFilled : localPart ≠ []
  localPlain : ∀ character ∈ localPart,
    character.isAlphanum = true ∨ character ∈ ['.', '_', '%', '+', '-']
  nameFilled : name ≠ []
  namePlain : ∀ character ∈ name, character.isAlphanum = true ∨ character ∈ ['.', '-']
  labelLong : 2 ≤ label.length
  labelLetters : ∀ character ∈ label, character.isAlpha = true

def Address (text : List Char) : Prop := ∃ localPart name label, IsWritten localPart name label text

/-! ### Characters -/

theorem isAsciiLetter_eq (character : Char) : isAsciiLetter character = character.isAlpha := by
  have upper : character.isUpper = ('A' ≤ character && character ≤ 'Z') := Bool.decide_and _ _
  have letter : character.isAlpha =
      (character.isUpper || ('a' ≤ character && character ≤ 'z')) := rfl
  rw [letter, upper]
  exact Bool.or_comm _ _

theorem isAlphanum_eq (character : Char) :
    character.isAlphanum = (isAsciiLetter character || isAsciiDigit character) := by
  rw [isAsciiLetter_eq]
  rfl

theorem isLocalCharacter_iff (character : Char) : isLocalCharacter character = true ↔
    character.isAlphanum = true ∨ character ∈ ['.', '_', '%', '+', '-'] := by
  simp [isLocalCharacter, isAlphanum_eq]

theorem isDomainCharacter_iff (character : Char) : isDomainCharacter character = true ↔
    character.isAlphanum = true ∨ character ∈ ['.', '-'] := by
  simp [isDomainCharacter, isAlphanum_eq]

/-! ### Domains -/

/-- The last point of a text is the one that no other follows. -/
theorem splitLastDot?_eq_some {text before after : List Char} :
    splitLastDot? text = some (before, after) ↔ text = before ++ '.' :: after ∧ '.' ∉ after := by
  constructor
  · intro split
    have parted := List.takeWhile_append_dropWhile (p := (· != '.')) (l := text.reverse)
    unfold splitLastDot? at split
    dsimp only at split
    split at split
    · cases split
    · next point rest behind =>
        cases split
        rw [behind] at parted
        have stops : point = '.' := by
          have first := List.head_dropWhile_not (l := text.reverse) (· != '.') (by simp [behind])
          simpa [behind] using first
        subst stops
        refine ⟨?_, ?_⟩
        · have whole := congrArg List.reverse parted
          rw [List.reverse_reverse, List.reverse_append, List.reverse_cons] at whole
          simpa using whole.symm
        · intro member
          have passed := List.mem_takeWhile_imp (List.mem_reverse.mp member)
          simp at passed
  · rintro ⟨rfl, last⟩
    have each : ∀ character ∈ after.reverse, (character != '.') = true := by
      intro character member
      have other : character ≠ '.' := by
        rintro rfl
        exact last (List.mem_reverse.mp member)
      simpa using other
    have turned : (before ++ '.' :: after).reverse = after.reverse ++ '.' :: before.reverse := by
      simp
    unfold splitLastDot?
    rw [turned, List.takeWhile_append_of_pos each, List.dropWhile_append_of_pos each]
    simp

theorem isDomain_iff (text : List Char) : isDomain text = true ↔
    ∃ name label, text = name ++ '.' :: label ∧ name ≠ [] ∧
      (∀ character ∈ name, character.isAlphanum = true ∨ character ∈ ['.', '-']) ∧
      2 ≤ label.length ∧ ∀ character ∈ label, character.isAlpha = true := by
  have accepts (name label : List Char) : (!name.isEmpty && name.all isDomainCharacter &&
        2 ≤ label.length && label.all isAsciiLetter) = true ↔
      name ≠ [] ∧ (∀ character ∈ name, character.isAlphanum = true ∨ character ∈ ['.', '-']) ∧
        2 ≤ label.length ∧ ∀ character ∈ label, character.isAlpha = true := by
    simp only [Bool.and_eq_true, Bool.not_eq_true', List.isEmpty_eq_false_iff, List.all_eq_true,
      decide_eq_true_eq, isDomainCharacter_iff, isAsciiLetter_eq, and_assoc]
  unfold isDomain
  constructor
  · intro accepted
    split at accepted
    · cases accepted
    · next name label split =>
        exact ⟨name, label, (splitLastDot?_eq_some.mp split).1, (accepts name label).mp accepted⟩
  · rintro ⟨name, label, rfl, parts⟩
    -- a label of letters holds no point
    have last : '.' ∉ label := fun member => absurd (parts.2.2.2 '.' member) (by decide)
    rw [splitLastDot?_eq_some.mpr ⟨rfl, last⟩]
    exact (accepts name label).mpr parts

/-! ### Addresses -/

theorem isAddress_iff (text : List Char) : isAddress text = true ↔ Address text := by
  unfold isAddress
  constructor
  · intro accepted
    have parted := List.takeWhile_append_dropWhile (p := isLocalCharacter) (l := text)
    dsimp only at accepted
    split at accepted
    · next domain behind =>
        rw [Bool.and_eq_true, Bool.not_eq_true', List.isEmpty_eq_false_iff, isDomain_iff] at accepted
        obtain ⟨filled, name, label, rfl, nameFilled, namePlain, long, letters⟩ := accepted
        rw [behind] at parted
        exact ⟨_, name, label, {
          whole := parted.symm
          localFilled := filled
          localPlain := fun character member =>
            (isLocalCharacter_iff character).mp (List.mem_takeWhile_imp member)
          nameFilled, namePlain
          labelLong := long
          labelLetters := letters }⟩
    · cases accepted
  · rintro ⟨localPart, name, label, written⟩
    have each : ∀ character ∈ localPart, isLocalCharacter character = true := fun character member =>
      (isLocalCharacter_iff character).mpr (written.localPlain character member)
    -- the at sign is no character of a local part, so the part ends before the first one
    have ends : isLocalCharacter '@' = false := by decide
    rw [written.whole, List.takeWhile_append_of_pos each, List.dropWhile_append_of_pos each,
      List.takeWhile_cons_of_neg (by simp [ends]), List.dropWhile_cons_of_neg (by simp [ends]),
      List.append_nil]
    have domain : isDomain (name ++ '.' :: label) = true :=
      (isDomain_iff _).mpr ⟨name, label, rfl, written.nameFilled, written.namePlain,
        written.labelLong, written.labelLetters⟩
    simp [domain, written.localFilled]

/-- An address is one line. -/
theorem Address.oneLine {text : List Char} (address : Address text) : '\n' ∉ text := by
  obtain ⟨localPart, name, label, written⟩ := address
  have outsideLocal : '\n' ∉ localPart := fun member =>
    absurd (written.localPlain '\n' member) (by decide)
  have outsideName : '\n' ∉ name := fun member => absurd (written.namePlain '\n' member) (by decide)
  have outsideLabel : '\n' ∉ label := fun member =>
    absurd (written.labelLetters '\n' member) (by decide)
  rw [written.whole]
  simp [outsideLocal, outsideName, outsideLabel]

/-- Without trimming, an address may have one line feed behind it. -/
theorem isEmail_iff (text : List Char) : isEmail text = true ↔
    Address text ∨ ∃ line, text = line ++ ['\n'] ∧ Address line := by
  unfold isEmail dropFinalLineFeed
  rw [isAddress_iff]
  split
  · next rest turned =>
      have whole : text = rest.reverse ++ ['\n'] := by
        rw [← List.reverse_reverse text, turned, List.reverse_cons]
      have broken : ¬Address text := fun address => address.oneLine (by simp [whole])
      simp [whole, whole ▸ broken]
  · next other =>
      refine (or_iff_left ?_).symm
      rintro ⟨line, rfl, _⟩
      exact other line.reverse (by simp)

/-! ### Replies -/

/-- A reply is an e-mail address just if it is an address once the blanks around it are dropped. -/
theorem email_replies_are_addresses (reply : Option String) :
    isValid reply .email = true ↔ Address (trimBlanks (reply.getD "").toList) := by
  have unbroken : ¬∃ line, trimBlanks (reply.getD "").toList = line ++ ['\n'] ∧ Address line := by
    rintro ⟨line, ends, _⟩
    exact trimBy_ne_append (by decide) ends
  have filled {text : List Char} (address : Address text) : text ≠ [] := by
    obtain ⟨localPart, name, label, written⟩ := address
    simp [written.whole]
  unfold isValid
  dsimp only
  rw [Bool.and_eq_true, Bool.not_eq_true', List.isEmpty_eq_false_iff, hasForm, isEmail_iff,
    or_iff_left unbroken]
  exact and_iff_right_of_imp filled

end ChatFlow.Reply

import ChatFlow.Proofs.Tables
import ChatFlow.Variable.Interpolation
/-
Values that are put into texts. A text is made of literals and of placeholders in single or double
braces. Double braces are filled in first, and single braces in the text that comes of that; so that the
value of a placeholder in double braces is read once more, and stands as it is only where no placeholder
begins in it.
-/

set_option autoImplicit false

namespace ChatFlow

open Text

/-! ### Characters -/

theorem exists_range_of_inRanges {code : Nat} {ranges : List (Nat × Nat)}
    (within : inRanges code ranges = true) :
    ∃ range ∈ ranges, range.1 ≤ code ∧ code ≤ range.2 := by
  induction ranges with
  | nil => cases within
  | cons range rest ih =>
      obtain ⟨first, last⟩ := range
      unfold inRanges at within
      split at within
      · cases within
      · next above =>
          split at within
          · next below => exact ⟨_, List.mem_cons_self, Nat.le_of_not_lt above, below⟩
          · obtain ⟨range, member, bounds⟩ := ih within
            exact ⟨range, List.mem_cons_of_mem _ member, bounds⟩

/-- No blank is a letter or a number. -/
theorem isLetterOrNumber_of_isBlank {character : Char} (blank : isBlank character = true) :
    isLetterOrNumber character = false := by
  have apart : (blankRanges.all fun range => (List.range' range.1 (range.2 + 1 - range.1)).all
      fun code => !inRanges code letterOrNumberRanges) = true := by
    decide +kernel
  obtain ⟨range, member, lower, upper⟩ := exists_range_of_inRanges blank
  have other := List.all_eq_true.mp (List.all_eq_true.mp apart range member) character.toNat
    (List.mem_range'_1.mpr ⟨lower, by omega⟩)
  rwa [Bool.not_eq_true'] at other

/-! ### What names mean -/

theorem Table.lookup?_eq_find? {α : Type} (name : String) (table : Table α) :
    lookup? name table = (table.find? fun entry => entry.1 = name).map Prod.snd := by
  induction table with
  | nil => rfl
  | cons entry rest ih =>
      unfold lookup?
      rw [ih, List.find?_cons]
      by_cases same : entry.1 = name
      · simp [same]
      · simp [same]

namespace Variables

variable {bag : Variables} {name value : String}

theorem lookupAnyCase?_eq_find? (name : String) (bag : Variables) :
    lookupAnyCase? name bag = (bag.find? fun entry => lower entry.1 = lower name).map Prod.snd := by
  induction bag with
  | nil => rfl
  | cons entry rest ih =>
      unfold lookupAnyCase?
      rw [ih, List.find?_cons]
      by_cases same : lower entry.1 = lower name
      · simp [same]
      · simp [same]

/-- The value of a name: that of the variable with exactly this name; or else of the first variable
whose name is the same up to case; or else the empty text. -/
inductive Means (bag : Variables) (name : String) : String → Prop where
  | exactly {value : String} {before after : Variables}
      (split : bag = before ++ (name, value) :: after)
      (first : ∀ entry ∈ before, entry.1 ≠ name) : Means bag name value
  | alike {key value : String} {before after : Variables} (unnamed : ∀ entry ∈ bag, entry.1 ≠ name)
      (split : bag = before ++ (key, value) :: after) (same : lower key = lower name)
      (first : ∀ entry ∈ before, lower entry.1 ≠ lower name) : Means bag name value
  | unknown (other : ∀ entry ∈ bag, lower entry.1 ≠ lower name) : Means bag name ""

theorem textOf_of_means (means : bag.Means name value) : bag.textOf name = value := by
  unfold textOf resolve?
  rw [Table.lookup?_eq_find?, lookupAnyCase?_eq_find?]
  cases means with
  | @exactly value before after split first =>
      have found : bag.find? (fun entry => entry.1 = name) = some (name, value) :=
        List.find?_eq_some_iff_append.mpr ⟨by simp, before, after, split, by simpa using first⟩
      rw [found]
      rfl
  | @alike key value before after unnamed split same first =>
      have missing : bag.find? (fun entry => entry.1 = name) = none :=
        List.find?_eq_none.mpr (by simpa using unnamed)
      have found : bag.find? (fun entry => lower entry.1 = lower name) = some (key, value) :=
        List.find?_eq_some_iff_append.mpr ⟨by simpa using same, before, after, split,
          by simpa using first⟩
      rw [missing, found]
      rfl
  | unknown other =>
      have missing : bag.find? (fun entry => entry.1 = name) = none :=
        List.find?_eq_none.mpr fun entry member same =>
          other entry member (congrArg lower (of_decide_eq_true same))
      have unlike : bag.find? (fun entry => lower entry.1 = lower name) = none :=
        List.find?_eq_none.mpr (by simpa using other)
      rw [missing, unlike]
      rfl

theorem means_textOf (bag : Variables) (name : String) : bag.Means name (bag.textOf name) := by
  unfold textOf resolve?
  rw [Table.lookup?_eq_find?, lookupAnyCase?_eq_find?]
  cases named : bag.find? fun entry => entry.1 = name with
  | some entry =>
      obtain ⟨same, before, after, split, first⟩ := List.find?_eq_some_iff_append.mp named
      cases of_decide_eq_true same
      exact .exactly split (by simpa using first)
  | none =>
      have unnamed : ∀ entry ∈ bag, entry.1 ≠ name := by
        simpa using List.find?_eq_none.mp named
      cases like : bag.find? fun entry => lower entry.1 = lower name with
      | some entry =>
          obtain ⟨same, before, after, split, first⟩ := List.find?_eq_some_iff_append.mp like
          exact .alike unnamed split (of_decide_eq_true same) (by simpa using first)
      | none => exact .unknown (by simpa using List.find?_eq_none.mp like)

end Variables

namespace Interpolation

theorem isNameCharacter_of_isBlank {character : Char} (blank : isBlank character = true) :
    isNameCharacter character = false := by
  have other {mark : Char} (solid : isBlank mark = false) : (character == mark) = false := by
    rw [beq_eq_false_iff_ne]
    rintro rfl
    rw [blank] at solid
    cases solid
  unfold isNameCharacter isWordCharacter
  rw [isLetterOrNumber_of_isBlank blank, other (by decide), other (by decide), other (by decide)]
  rfl

/-- A brace is neither blank nor a character of names. -/
theorem brace_apart {brace : Char} (among : brace = openBrace ∨ brace = closeBrace) :
    isBlank brace = false ∧ isNameCharacter brace = false := by
  rcases among with rfl | rfl
  · exact ⟨by decide, by decide +kernel⟩
  · exact ⟨by decide, by decide +kernel⟩

/-! ### Written texts -/

/-- A name as it stands between braces, with blanks around it. -/
structure Placeholder where
  left : List Char
  name : List Char
  right : List Char
  blankLeft : ∀ character ∈ left, isBlank character = true
  named : name ≠ []
  plain : ∀ character ∈ name, isNameCharacter character = true
  blankRight : ∀ character ∈ right, isBlank character = true

/-- A placeholder between a number of braces. -/
def Placeholder.within (placeholder : Placeholder) (braces : Nat) : List Char :=
  List.replicate braces openBrace ++ (placeholder.left ++ (placeholder.name ++
    (placeholder.right ++ List.replicate braces closeBrace)))

/-- A part of a text: characters without braces, or a placeholder in single or in double braces. -/
inductive Piece where
  | literal (characters : List Char)
      (bare : ∀ character ∈ characters, character ≠ openBrace ∧ character ≠ closeBrace)
  | single (placeholder : Placeholder)
  | double (placeholder : Placeholder)

namespace Piece

variable (value : String → String)

/-- A piece as it is written. -/
def written : Piece → List Char
  | literal characters _ => characters
  | single placeholder => placeholder.within 1
  | double placeholder => placeholder.within 2

/-- A piece with its value in place of a placeholder. -/
def filled : Piece → List Char
  | literal characters _ => characters
  | single placeholder => (value (String.ofList placeholder.name)).toList
  | double placeholder => (value (String.ofList placeholder.name)).toList

/-- A piece with its value in place of a placeholder in double braces only. -/
def halfFilled : Piece → List Char
  | literal characters _ => characters
  | single placeholder => placeholder.within 1
  | double placeholder => (value (String.ofList placeholder.name)).toList

end Piece

/-! ### Reading placeholders -/

variable {braces : Nat} {characters rest : List Char} {textOf : String → String}

theorem afterCopies?_replicate (mark : Char) (count : Nat) (rest : List Char) :
    afterCopies? mark count (List.replicate count mark ++ rest) = some rest := by
  induction count with
  | zero => rfl
  | succ count ih =>
      rw [List.replicate_succ, List.cons_append, afterCopies?, if_pos rfl, ih]

namespace Placeholder

variable (placeholder : Placeholder)

/-- The blanks before a name end with it. -/
theorem dropWhile_left (rest : List Char) :
    (placeholder.left ++ (placeholder.name ++ rest)).dropWhile isBlank = placeholder.name ++ rest := by
  rw [List.dropWhile_append_of_pos placeholder.blankLeft]
  cases same : placeholder.name with
  | nil => exact absurd same placeholder.named
  | cons first more =>
      have plain := placeholder.plain first (by simp [same])
      have solid : isBlank first = false := Bool.eq_false_iff.mpr fun blank => by
        rw [isNameCharacter_of_isBlank blank] at plain
        cases plain
      rw [List.cons_append, List.dropWhile_cons_of_neg (by simp [solid])]

/-- A name ends with the blanks after it, or with a brace. -/
theorem name_ends (braces : Nat) (rest : List Char) :
    ∃ first more, placeholder.right ++ (List.replicate (braces + 1) closeBrace ++ rest) = first :: more ∧
      isNameCharacter first = false := by
  cases same : placeholder.right with
  | nil => exact ⟨_, _, rfl, (brace_apart (Or.inr rfl)).2⟩
  | cons first more =>
      exact ⟨first, _, rfl, isNameCharacter_of_isBlank (placeholder.blankRight first (by simp [same]))⟩

/-- A placeholder is read whole where it is written. -/
theorem read (braces : Nat) (rest : List Char) :
    placeholder? (braces + 1) (placeholder.within (braces + 1) ++ rest) =
      some (placeholder.name, rest) := by
  obtain ⟨first, more, tail, other⟩ := placeholder.name_ends braces rest
  have blanks : (first :: more).dropWhile isBlank =
      List.replicate (braces + 1) closeBrace ++ rest := by
    rw [← tail, List.dropWhile_append_of_pos placeholder.blankRight, List.replicate_succ,
      List.cons_append, List.dropWhile_cons_of_neg (by simp [(brace_apart (Or.inr rfl)).1])]
  unfold placeholder? within
  rw [List.append_assoc, afterCopies?_replicate]
  simp only [List.append_assoc, Option.bind_eq_bind, Option.bind_some]
  rw [tail, placeholder.dropWhile_left, List.takeWhile_append_of_pos placeholder.plain,
    List.dropWhile_append_of_pos placeholder.plain, List.takeWhile_cons_of_neg (by simp [other]),
    List.dropWhile_cons_of_neg (by simp [other]), List.append_nil, blanks, afterCopies?_replicate]
  simp [placeholder.named]

/-- A placeholder as it stands between opening and closing braces has no opening brace. -/
theorem bare_inside (braces : Nat) : ∀ character ∈ placeholder.left ++ (placeholder.name ++
    (placeholder.right ++ List.replicate braces closeBrace)), character ≠ openBrace := by
  obtain ⟨solid, unnamed⟩ :=
    brace_apart (Or.inl rfl : openBrace = openBrace ∨ openBrace = closeBrace)
  rintro character member rfl
  simp only [List.mem_append] at member
  rcases member with left | name | right | brace
  · rw [placeholder.blankLeft _ left] at solid
    cases solid
  · rw [placeholder.plain _ name] at unnamed
    cases unnamed
  · rw [placeholder.blankRight _ right] at solid
    cases solid
  · exact absurd (List.eq_of_mem_replicate brace) (by decide)

end Placeholder

theorem placeholder?_of_ne {character : Char} (other : character ≠ openBrace) :
    placeholder? (braces + 1) (character :: rest) = none := by
  unfold placeholder? afterCopies?
  rw [if_neg other]
  rfl

/-! ### Replacing placeholders -/

theorem replaceFrom_skip (skipped : Nat) (characters : List Char) :
    replaceFrom braces textOf skipped characters =
      replaceFrom braces textOf 0 (characters.drop skipped) := by
  induction skipped generalizing characters with
  | zero => rfl
  | succ skipped ih =>
      cases characters with
      | nil => rfl
      | cons character rest =>
          rw [replaceFrom, List.drop_succ_cons]
          exact ih rest

/-- Characters in which no placeholder begins are left as they are. -/
theorem replaceFrom_undisturbed
    (quiet : ∀ before after, characters = before ++ after → after ≠ [] →
      placeholder? braces (after ++ rest) = none) :
    replaceFrom braces textOf 0 (characters ++ rest) =
      characters ++ replaceFrom braces textOf 0 rest := by
  induction characters with
  | nil => rfl
  | cons character characters ih =>
      have own := quiet [] (character :: characters) rfl (List.cons_ne_nil _ _)
      rw [List.cons_append] at own ⊢
      rw [replaceFrom, own]
      dsimp only
      rw [ih fun before after same => quiet (character :: before) after (by rw [same]; rfl)]
      rfl

/-- No placeholder begins in characters without an opening brace. -/
theorem quiet_of_bare (bare : ∀ character ∈ characters, character ≠ openBrace)
    (rest : List Char) : ∀ before after, characters = before ++ after → after ≠ [] →
      placeholder? (braces + 1) (after ++ rest) = none := by
  rintro before after rfl filled
  cases after with
  | nil => exact absurd rfl filled
  | cons character after =>
      exact placeholder?_of_ne (bare character (List.mem_append_right _ List.mem_cons_self))

/-- Characters without an opening brace are left as they are. -/
theorem replaceFrom_bare (braces : Nat) (textOf : String → String)
    (bare : ∀ character ∈ characters, character ≠ openBrace) :
    replaceFrom (braces + 1) textOf 0 characters = characters := by
  have same := @replaceFrom_undisturbed _ _ _ textOf (@quiet_of_bare braces _ bare [])
  rwa [List.append_nil, replaceFrom, List.append_nil] at same

theorem interpolate_bare {text : String} (bag : Variables) (unopened : openBrace ∉ text.toList) :
    interpolate bag text = text := by
  have bare : ∀ character ∈ text.toList, character ≠ openBrace := by
    rintro character member rfl
    exact unopened member
  unfold interpolate replaceBraces
  rw [replaceFrom_bare 1 _ bare, replaceFrom_bare 0 _ bare, String.ofList_toList]

/-- No placeholder in double braces begins within one in single braces. -/
theorem Placeholder.quiet_in_double (placeholder : Placeholder) (rest : List Char) :
    ∀ before after, placeholder.within 1 = before ++ after → after ≠ [] →
      placeholder? 2 (after ++ rest) = none := by
  intro before after same filled
  have bare := placeholder.bare_inside 1
  have begun : placeholder.within 1 = openBrace :: (placeholder.left ++ (placeholder.name ++
      (placeholder.right ++ List.replicate 1 closeBrace))) := rfl
  cases before with
  | cons brace before =>
      rw [begun, List.cons_append, List.cons.injEq] at same
      exact quiet_of_bare bare rest before after same.2 filled
  | nil =>
      -- the second character is none of the braces that a placeholder in double braces begins with
      rw [begun] at same
      cases inside : placeholder.left ++ (placeholder.name ++
          (placeholder.right ++ List.replicate 1 closeBrace)) with
      | nil => simp [placeholder.named] at inside
      | cons first more =>
          rw [inside] at same bare
          subst same
          have other := bare first List.mem_cons_self
          simp [placeholder?, afterCopies?, other]

/-- A placeholder is replaced by its value, and what comes after it is read on its own. -/
theorem replaceFrom_within (placeholder : Placeholder) (braces : Nat) (rest : List Char) :
    replaceFrom (braces + 1) textOf 0 (placeholder.within (braces + 1) ++ rest) =
      (textOf (String.ofList placeholder.name)).toList ++
        replaceFrom (braces + 1) textOf 0 rest := by
  have read := placeholder.read braces rest
  obtain ⟨inside, same⟩ : ∃ inside, placeholder.within (braces + 1) = openBrace :: inside :=
    ⟨_, rfl⟩
  rw [same, List.cons_append] at read ⊢
  have length : (inside ++ rest).length - rest.length = inside.length := by
    rw [List.length_append, Nat.add_sub_cancel]
  rw [replaceFrom, read]
  dsimp only
  rw [replaceFrom_skip, length, List.drop_left]

/-! ### Two passes -/

section

variable (pieces : List Piece)

/-- The first pass fills in the placeholders in double braces. -/
theorem replaceFrom_two (textOf : String → String) :
    replaceFrom 2 textOf 0 (pieces.flatMap Piece.written) =
      pieces.flatMap (Piece.halfFilled textOf) := by
  induction pieces with
  | nil => rfl
  | cons piece rest ih =>
      rw [List.flatMap_cons, List.flatMap_cons, ← ih]
      cases piece with
      | literal characters bare =>
          exact replaceFrom_undisturbed (quiet_of_bare (fun character member =>
            (bare character member).1) _)
      | single placeholder => exact replaceFrom_undisturbed (placeholder.quiet_in_double _)
      | double placeholder => exact replaceFrom_within placeholder 1 _

/-- No placeholder in single braces begins within a value that was put in for double braces: not in the
value alone, nor in the value and what follows it. -/
def Undisturbed (value : String → String) (pieces : List Piece) : Prop :=
  ∀ earlier placeholder later, pieces = earlier ++ Piece.double placeholder :: later →
    ∀ before after, (value (String.ofList placeholder.name)).toList = before ++ after → after ≠ [] →
      placeholder? 1 (after ++ later.flatMap (Piece.halfFilled value)) = none

/-- The second pass fills in the placeholders in single braces, and leaves all else where none begins
within a value. -/
theorem replaceFrom_one {textOf : String → String} (undisturbed : Undisturbed textOf pieces) :
    replaceFrom 1 textOf 0 (pieces.flatMap (Piece.halfFilled textOf)) =
      pieces.flatMap (Piece.filled textOf) := by
  induction pieces with
  | nil => rfl
  | cons piece rest ih =>
      have later : Undisturbed textOf rest := fun earlier placeholder later same =>
        undisturbed (piece :: earlier) placeholder later (by rw [same]; rfl)
      rw [List.flatMap_cons, List.flatMap_cons, ← ih later]
      cases piece with
      | literal characters bare =>
          exact replaceFrom_undisturbed (quiet_of_bare (fun character member =>
            (bare character member).1) _)
      | single placeholder => exact replaceFrom_within placeholder 0 _
      | double placeholder => exact replaceFrom_undisturbed (undisturbed [] placeholder rest rfl)

/-- Values without an opening brace are never disturbed. -/
theorem undisturbed_of_bare {value : String → String}
    (bare : ∀ placeholder, Piece.double placeholder ∈ pieces →
      openBrace ∉ (value (String.ofList placeholder.name)).toList) : Undisturbed value pieces := by
  rintro earlier placeholder later rfl before after same filled
  refine quiet_of_bare (fun character member other => ?_) _ before after same filled
  exact bare placeholder (List.mem_append_right _ List.mem_cons_self) (other ▸ member)

end

/-- A text as it is written, piece by piece. -/
def writtenText (pieces : List Piece) : String := String.ofList (pieces.flatMap Piece.written)

/-- A text with the values of its placeholders, as they are. -/
def filledText (value : String → String) (pieces : List Piece) : String :=
  String.ofList (pieces.flatMap (Piece.filled value))

end Interpolation

open Interpolation in
/-- What stands for a placeholder. The values of names in double braces are put in first, and the text
that comes of it is read once more, for names in single braces. Every value stands as it is, and every
literal, where no placeholder begins within a value that was put in for double braces; which holds
where those values have no opening brace, whatever values are put in for single braces. -/
theorem values_verbatim_unless_reread {bag : Variables} {value : String → String}
    (means : ∀ name, bag.Means name (value name)) (pieces : List Piece) :
    interpolate bag (writtenText pieces) =
      String.ofList (replaceFrom 1 value 0 (pieces.flatMap (Piece.halfFilled value))) ∧
    (Undisturbed value pieces → interpolate bag (writtenText pieces) = filledText value pieces) ∧
    ((∀ placeholder, Piece.double placeholder ∈ pieces →
        openBrace ∉ (value (String.ofList placeholder.name)).toList) → Undisturbed value pieces) := by
  have same : bag.textOf = value := funext fun name => Variables.textOf_of_means (means name)
  have twice : interpolate bag (writtenText pieces) =
      String.ofList (replaceFrom 1 value 0 (pieces.flatMap (Piece.halfFilled value))) := by
    unfold interpolate writtenText replaceBraces
    rw [String.toList_ofList, replaceFrom_two, same]
  refine ⟨twice, fun undisturbed => ?_, undisturbed_of_bare pieces⟩
  rw [twice, replaceFrom_one pieces undisturbed]
  rfl

/-! ### A value with braces -/

namespace Interpolation

/-- A name of one letter, without blanks around it. -/
def letter (name : Char) (plain : isNameCharacter name = true) : Placeholder where
  left := []
  name := [name]
  right := []
  blankLeft := nofun
  named := List.cons_ne_nil _ _
  plain := List.forall_mem_singleton.mpr plain
  blankRight := nofun

/-- One variable has a name in braces for its value, as a contact may have typed it. -/
def typed : Variables := [("a", "\x7bb\x7d"), ("b", "x")]

/-- The text `{a} {{b}}`. -/
def twoForms : List Piece :=
  [.single (letter 'a' (by decide +kernel)),
    .literal [' '] (List.forall_mem_singleton.mpr ⟨by decide, by decide⟩),
    .double (letter 'b' (by decide +kernel))]

end Interpolation

open Interpolation in
/-- A value with braces stands as it is where it is put in for single braces. -/
theorem values_verbatim_unless_reread_typed :
    (∀ name, typed.Means name (typed.textOf name)) ∧ Undisturbed typed.textOf twoForms ∧
      interpolate typed (writtenText twoForms) = filledText typed.textOf twoForms ∧
      filledText typed.textOf twoForms = "\x7bb\x7d x" := by
  have means := Variables.means_textOf typed
  obtain ⟨_, verbatim, bare⟩ := values_verbatim_unless_reread means twoForms
  have undisturbed : Undisturbed typed.textOf twoForms := bare fun placeholder member => by
    simp only [twoForms, List.mem_cons, reduceCtorEq, Piece.double.injEq, List.not_mem_nil, or_false,
      false_or] at member
    subst member
    decide
  exact ⟨means, undisturbed, verbatim undisturbed, by decide⟩

open Interpolation in
/-- Put in for double braces, the same value is read once more. -/
theorem value_in_double_braces_reread :
    interpolate typed (writtenText [.double (letter 'a' (by decide +kernel))]) = "x" ∧
      filledText typed.textOf [.double (letter 'a' (by decide +kernel))] = "\x7bb\x7d" := by
  constructor
  · decide +kernel
  · decide +kernel

end ChatFlow

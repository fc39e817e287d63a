import ChatFlow.Proofs.ErrorBranch
import ChatFlow.Proofs.Numerals
import ChatFlow.Proofs.VerbatimValues
/-
Spellings of a name. A variable is set under its exact name and read under any name that is the same up
to case. So a reading finds one of the spellings that are set: the name as it is read where a variable has
it, or else the spelling that was set first. What a node has written under one spelling is read under
another one just where that finds it.
-/

set_option autoImplicit false

namespace ChatFlow

open Program Text

/-! ### Small letters and the margins of names -/

namespace Interpolation

/-- What is dropped around a written name. -/
def isMargin (character : Char) : Bool :=
  isBlank character || character == openBrace || character == closeBrace

theorem isMargin_of_isNameCharacter {character : Char} (plain : isNameCharacter character = true) :
    isMargin character = false := by
  have other {brace : Char} (among : brace = openBrace ∨ brace = closeBrace) :
      (character == brace) = false := by
    rw [beq_eq_false_iff_ne]
    rintro rfl
    rw [(brace_apart among).2] at plain
    cases plain
  have solid : isBlank character = false := by
    apply Bool.eq_false_iff.mpr
    intro blank
    rw [isNameCharacter_of_isBlank blank] at plain
    cases plain
  unfold isMargin
  rw [solid, other (Or.inl rfl), other (Or.inr rfl)]
  rfl

end Interpolation

namespace Text

open Interpolation

theorem lowerCode_cases (code : Nat) (runs : List (Nat × Nat × Nat × Int)) :
    lowerCode code runs = code ∨ ∃ run ∈ runs, run.1 ≤ code ∧ code ≤ run.2.1 ∧
      lowerCode code runs = ((code : Int) + run.2.2.2).toNat := by
  induction runs with
  | nil => exact Or.inl rfl
  | cons run rest ih =>
      obtain ⟨first, last, stride, distance⟩ := run
      by_cases before : code < first
      · exact Or.inl (by simp [lowerCode, before])
      · by_cases within : code ≤ last
        · by_cases struck : (code - first) % stride = 0
          · refine Or.inr ⟨_, List.mem_cons_self, Nat.le_of_not_lt before, within, ?_⟩
            simp [lowerCode, before, within, struck]
          · exact Or.inl (by simp [lowerCode, before, within, struck])
        · have later : lowerCode code ((first, last, stride, distance) :: rest) =
              lowerCode code rest := by
            simp [lowerCode, before, within]
          rw [later]
          rcases ih with same | ⟨run, member, bounds⟩
          · exact Or.inl same
          · exact Or.inr ⟨run, List.mem_cons_of_mem _ member, bounds⟩

/-- The codes of what is dropped around a written name. -/
def marginRanges : List (Nat × Nat) := (0x7b, 0x7b) :: (0x7d, 0x7d) :: blankRanges

theorem exists_range_of_isMargin {character : Char} (margin : isMargin character = true) :
    ∃ range ∈ marginRanges, range.1 ≤ character.toNat ∧ character.toNat ≤ range.2 := by
  unfold isMargin at margin
  rw [Bool.or_eq_true, Bool.or_eq_true] at margin
  rcases margin with (blank | opening) | closing
  · obtain ⟨range, member, bounds⟩ := exists_range_of_inRanges blank
    exact ⟨range, List.mem_cons_of_mem _ (List.mem_cons_of_mem _ member), bounds⟩
  · rw [eq_of_beq opening]
    exact ⟨_, List.mem_cons_self, by decide⟩
  · rw [eq_of_beq closing]
    exact ⟨_, List.mem_cons_of_mem _ List.mem_cons_self, by decide⟩

theorem marginRanges_positive : (marginRanges.all fun range => 0 < range.1) = true := by
  decide +kernel

/-- Neither the letters that have a small letter nor their small letters are dropped around names. -/
theorem lowerRuns_apart : (lowerRuns.all fun run => marginRanges.all fun range =>
    (run.2.1 < range.1 || range.2 < run.1) &&
      (run.2.1 + run.2.2.2 < range.1 || range.2 < run.1 + run.2.2.2)) = true := by
  decide +kernel

/-- A number that names no character is read as the character 0. -/
theorem toNat_of_ofNat {code : Nat} {character : Char} (named : Char.ofNat code = character)
    (proper : character.toNat ≠ 0) : character.toNat = code := by
  subst named
  by_cases valid : code.isValidChar
  · rw [Char.ofNat, dif_pos valid]
    rfl
  · rw [Char.ofNat, dif_neg valid] at proper
    exact absurd rfl proper

theorem lowerChar_eq_margin_iff {character margin : Char} (isMargin : isMargin margin = true) :
    lowerChar character = margin ↔ character = margin := by
  unfold lowerChar
  rcases lowerCode_cases character.toNat lowerRuns with same | ⟨run, member, first, last, same⟩
  · rw [same, Char.ofNat_toNat]
  · obtain ⟨range, among, lower, upper⟩ := exists_range_of_isMargin isMargin
    have apart := List.all_eq_true.mp (List.all_eq_true.mp lowerRuns_apart run member) range among
    simp only [Bool.and_eq_true, Bool.or_eq_true, decide_eq_true_eq] at apart
    rw [same]
    constructor
    · intro small
      have positive : 0 < range.1 :=
        of_decide_eq_true (List.all_eq_true.mp marginRanges_positive range among)
      have code := toNat_of_ofNat small (by omega)
      omega
    · rintro rfl
      omega

theorem mem_lowerBetween_margin {before after : List Char} {character margin : Char}
    (isMargin : isMargin margin = true) :
    margin ∈ lowerBetween before character after ↔ margin = character := by
  have other {letter : Char} (apart : Interpolation.isMargin letter = false) : margin ≠ letter := by
    rintro rfl
    rw [isMargin] at apart
    cases apart
  unfold lowerBetween
  split
  · next dotted =>
      rw [eq_of_beq dotted]
      simp [other (by decide : Interpolation.isMargin 'i' = false),
        other (by decide : Interpolation.isMargin '\u0307' = false),
        other (by decide : Interpolation.isMargin 'İ' = false)]
  · split
    · next sigma =>
        rw [eq_of_beq sigma]
        have outside := other (by decide : Interpolation.isMargin 'Σ' = false)
        split
        · simp [outside, other (by decide : Interpolation.isMargin 'ς' = false)]
        · simp [outside, other (by decide : Interpolation.isMargin 'σ' = false)]
    · rw [List.mem_singleton, eq_comm, lowerChar_eq_margin_iff isMargin, eq_comm]

theorem mem_lowerFrom_margin {before characters : List Char} {margin : Char}
    (isMargin : isMargin margin = true) :
    margin ∈ lowerFrom before characters ↔ margin ∈ characters := by
  induction characters generalizing before with
  | nil => rfl
  | cons character rest ih =>
      rw [lowerFrom, List.mem_append, List.mem_cons, mem_lowerBetween_margin isMargin, ih]

theorem lowerFrom_eq_nil_iff {before characters : List Char} :
    lowerFrom before characters = [] ↔ characters = [] := by
  cases characters with
  | nil => simp [lowerFrom]
  | cons character rest =>
      unfold lowerFrom lowerBetween
      split
      · simp
      · split
        · split <;> simp
        · simp

end Text

namespace Interpolation

/-- A name that can stand in a placeholder. -/
structure IsName (name : String) : Prop where
  filled : name.toList ≠ []
  plain : ∀ character ∈ name.toList, isNameCharacter character = true

/-- Nothing is dropped where this name is written. -/
structure IsBare (name : String) : Prop where
  filled : name.toList ≠ []
  bare : ∀ character ∈ name.toList, isMargin character = false

variable {name read value : String} {bag : Variables}

/-- The spellings of a name that can stand in a placeholder are bare, also those that cannot. -/
theorem IsName.isBare (isName : IsName name) (alike : lower read = lower name) : IsBare read := by
  have letters : lowerFrom [] read.toList = lowerFrom [] name.toList := String.ofList_inj.mp alike
  constructor
  · intro empty
    rw [lowerFrom_eq_nil_iff.mpr empty] at letters
    exact isName.filled (lowerFrom_eq_nil_iff.mp letters.symm)
  · intro character member
    cases margin : isMargin character with
    | false => rfl
    | true =>
        have written : character ∈ name.toList := by
          rwa [← @mem_lowerFrom_margin [] _ _ margin, ← letters, mem_lowerFrom_margin margin]
        rw [← margin]
        exact isMargin_of_isNameCharacter (isName.plain character written)

/-! ### Reading a variable -/

theorem variableText_of_isBare (isBare : IsBare read) (bag : Variables) :
    variableText bag read = bag.textOf read := by
  have solid : ∀ character ∈ read.toList, isBlank character = false := by
    intro character member
    have apart := isBare.bare character member
    unfold isMargin at apart
    simp only [Bool.or_eq_false_iff] at apart
    exact apart.1.1
  have unbraced : ∀ character ∈ read.toList,
      (character == openBrace || character == closeBrace) = false := by
    intro character member
    have apart := isBare.bare character member
    unfold isMargin at apart
    rw [Bool.or_assoc, Bool.or_eq_false_iff] at apart
    exact apart.2
  have filled : read.isEmpty = false := by
    apply Bool.eq_false_iff.mpr
    intro empty
    rw [String.isEmpty_iff.mp empty] at isBare
    exact isBare.filled rfl
  unfold variableText trimBlanks
  rw [filled, trimBy_of_none solid]
  dsimp only
  rw [trimBy_of_none unbraced, trimBy_of_none solid, String.ofList_toList]
  rfl

/-- A name between single braces. -/
def braced (name : String) : String :=
  String.ofList (openBrace :: (name.toList ++ [closeBrace]))

theorem interpolate_braced (isName : IsName read) (bag : Variables) :
    interpolate bag (braced read) = bag.textOf read := by
  let placeholder : Placeholder :=
    ⟨[], read.toList, [], List.forall_mem_nil _, isName.filled, isName.plain, List.forall_mem_nil _⟩
  have kept : replaceFrom 2 bag.textOf 0 (placeholder.within 1 ++ []) = placeholder.within 1 ++ [] :=
    replaceFrom_undisturbed (placeholder.quiet_in_double [])
  have replaced := @replaceFrom_within bag.textOf placeholder 0 []
  have written : braced read = String.ofList (placeholder.within 1 ++ []) := by
    rw [List.append_nil]
    rfl
  unfold interpolate replaceBraces
  rw [written, String.toList_ofList, kept, replaced, String.ofList_toList]
  simp [replaceFrom]

theorem replaceFrom_opened {braces : Nat} {inside : List Char} {textOf : String → String}
    (none : placeholder? (braces + 1) (openBrace :: inside) = none)
    (bare : ∀ character ∈ inside, character ≠ openBrace) :
    replaceFrom (braces + 1) textOf 0 (openBrace :: inside) = openBrace :: inside := by
  rw [replaceFrom, none]
  dsimp only
  rw [replaceFrom_bare _ _ bare]

/-- What is between braces is kept where it is a spelling that cannot stand in a placeholder. -/
theorem interpolate_braced_other (isBare : IsBare read)
    (other : ∃ character ∈ read.toList, isNameCharacter character = false) (bag : Variables) :
    interpolate bag (braced read) = braced read := by
  have apart {character : Char} (member : character ∈ read.toList) :
      isBlank character = false ∧ character ≠ openBrace ∧ character ≠ closeBrace := by
    have bare := isBare.bare character member
    unfold isMargin at bare
    simpa [and_assoc] using bare
  have bare : ∀ character ∈ read.toList ++ [closeBrace], character ≠ openBrace := by
    intro character member
    rcases List.mem_append.mp member with inside | last
    · exact (apart inside).2.1
    · rw [List.mem_singleton.mp last]
      decide
  obtain ⟨first, rest, opened⟩ := List.exists_cons_of_ne_nil isBare.filled
  have noDouble : placeholder? 2 (openBrace :: (read.toList ++ [closeBrace])) = none := by
    have unopened := (apart (opened ▸ List.mem_cons_self)).2.1
    simp [placeholder?, afterCopies?, opened, unopened]
  have noSingle : placeholder? 1 (openBrace :: (read.toList ++ [closeBrace])) = none := by
    have stops : (read.toList.find? fun character => !isNameCharacter character).isSome = true := by
      rw [List.find?_isSome]
      obtain ⟨character, member, unnamed⟩ := other
      exact ⟨character, member, by simp [unnamed]⟩
    obtain ⟨stop, found⟩ := Option.isSome_iff_exists.mp stops
    obtain ⟨unnamed, before, later, split, named⟩ := List.find?_eq_some_iff_append.mp found
    have solid := apart (opened ▸ List.mem_cons_self)
    have stopped := apart (split ▸ List.mem_append_right before List.mem_cons_self)
    have inside : (read.toList ++ [closeBrace]).dropWhile isBlank =
        before ++ stop :: (later ++ [closeBrace]) := by
      have same : before ++ stop :: (later ++ [closeBrace]) = read.toList ++ [closeBrace] := by
        rw [split, List.append_assoc, List.cons_append]
      rw [same, opened, List.cons_append, List.dropWhile_cons_of_neg (by simp [solid.1])]
    have plain : ∀ character ∈ before, isNameCharacter character = true := by simpa using named
    have unplain : isNameCharacter stop = false := by simpa using unnamed
    simp only [placeholder?, afterCopies?, if_pos, Option.bind_eq_bind, Option.bind_some, inside,
      List.takeWhile_append_of_pos plain, List.dropWhile_append_of_pos plain]
    rw [List.dropWhile_cons_of_neg (by simp [unplain]), List.dropWhile_cons_of_neg (by simp [stopped.1])]
    simp [afterCopies?, stopped.2.2]
  unfold interpolate replaceBraces braced
  rw [String.toList_ofList, replaceFrom_opened noDouble bare, replaceFrom_opened noSingle bare]

end Interpolation

/-! ### The spelling that is found -/

namespace Variables

variable {bag : Variables} {name key : String}

/-- The spelling under which a name is read: the name itself where a variable has it, or else the first
one that is the same up to case. -/
inductive Finds (bag : Variables) (name : String) : String → Prop where
  | itself (present : name ∈ Table.names bag) : Finds bag name name
  | alike {key : String} {before after : List String} (absent : name ∉ Table.names bag)
      (split : Table.names bag = before ++ key :: after) (same : lower key = lower name)
      (first : ∀ other ∈ before, lower other ≠ lower name) : Finds bag name key

theorem exists_finds {other : String} (present : other ∈ Table.names bag)
    (alike : lower other = lower name) : ∃ key, bag.Finds name key ∧ lower key = lower name := by
  by_cases own : name ∈ Table.names bag
  · exact ⟨name, .itself own, rfl⟩
  · have some_ : ((Table.names bag).find? fun key => lower key = lower name).isSome = true := by
      rw [List.find?_isSome]
      exact ⟨other, present, by simpa using alike⟩
    obtain ⟨key, found⟩ := Option.isSome_iff_exists.mp some_
    obtain ⟨same, before, after, split, first⟩ := List.find?_eq_some_iff_append.mp found
    exact ⟨key, .alike own split (of_decide_eq_true same) (by simpa using first),
      of_decide_eq_true same⟩

theorem textOf_of_finds (finds : bag.Finds name key) :
    ∃ value, Table.lookup? key bag = some value ∧ bag.textOf name = value := by
  cases finds with
  | itself present =>
      cases found : Table.lookup? name bag with
      | none => exact absurd present ((Table.lookup?_eq_none_iff name bag).mp found)
      | some value =>
          refine ⟨value, rfl, ?_⟩
          unfold textOf resolve?
          rw [found]
          rfl
  | @alike _ before after absent split same first =>
      obtain ⟨earlier, rest, whole, names, others⟩ := List.map_eq_append_iff.mp split
      obtain ⟨entry, later, rfl, rfl, _⟩ := List.map_eq_cons_iff.mp others
      subst names
      have unlike : ∀ other ∈ earlier, lower other.1 ≠ lower name := fun other member =>
        first _ (List.mem_map_of_mem member)
      refine ⟨entry.2, ?_, ?_⟩
      · rw [Table.lookup?_eq_find?, List.find?_eq_some_iff_append.mpr
          ⟨by simp, earlier, later, whole, fun other member => ?_⟩]
        · rfl
        · have different : other.1 ≠ entry.1 := fun equal =>
            unlike other member ((congrArg lower equal).trans same)
          simpa using different
      · apply textOf_of_means
        refine .alike ?_ whole same unlike
        rintro other member rfl
        exact absent (List.mem_map_of_mem member)

end Variables

/-- A name is read as a value: by itself, by a rule of a condition, and in a text, where it can stand in a
placeholder. -/
structure Variables.ReadsAs (bag : Variables) (name value : String) : Prop where
  text : Interpolation.variableText bag name = value
  rules : ∀ rule : ConditionRule, rule.variableName = name → Condition.ruleHolds bag rule =
    Condition.holdsFor rule.operator value (Interpolation.interpolate? bag rule.value)
  placeholder : (∀ character ∈ name.toList, Interpolation.isNameCharacter character = true) →
    Interpolation.interpolate bag (Interpolation.braced name) = value
  others : (∃ character ∈ name.toList, Interpolation.isNameCharacter character = false) →
    Interpolation.interpolate bag (Interpolation.braced name) = Interpolation.braced name

open Interpolation in
theorem Variables.readsAs_of_textOf {bag : Variables} {name value : String} (isBare : IsBare name)
    (read : bag.textOf name = value) : bag.ReadsAs name value := by
  have text : variableText bag name = value := (variableText_of_isBare isBare bag).trans read
  constructor
  · exact text
  · rintro rule rfl
    unfold Condition.ruleHolds
    rw [text]
  · intro plain
    exact (interpolate_braced ⟨isBare.filled, plain⟩ bag).trans read
  · exact fun other => interpolate_braced_other isBare other bag

/-! ### What a node writes -/

namespace Evaluation

open Interpolation

variable {services : Services} {node : Node} {context : NodeContext}
  {calls : List (Answered Call.Answer)} {result : NodeResult} {name value : String}

/-- A node writes a value to a name where it is evaluated in a session and called these services: the
reply to a question that takes it, the option that a reply chooses in a menu, the text that it sets, the
reply of the language model, or what it takes from an answer of success. -/
def Assigns (node : Node) (context : NodeContext) (calls : List (Answered Call.Answer))
    (name value : String) : Prop :=
  match node.content with
  | .input content =>
      context.isResume = true ∧ name = content.variableName ∧
        value = trim (context.inboundText.getD "") ∧
        (value.isEmpty = true ∧ content.required = false ∨
          Reply.isValid (some value) content.form = true)
  | .menu content =>
      context.isResume = true ∧ given? content.variableName = some name ∧
        ∃ index option, Reply.matchOption context.inboundText content.options =
            .ok (some (index, option)) ∧
          value = givenOr (some option.label) (option.value.getD "")
  | .action content =>
      content.kind = .setVariable ∧ given? content.variableName = some name ∧
        value = interpolate? context.bag content.variableValue
  | .aiResponse content =>
      name = givenOr content.saveToVariable "resposta_ia" ∧
        ∃ request, ⟨.complete request, .ok (.str value)⟩ ∈ calls
  | .webhook content =>
      given? content.responseVariable = some name ∧
        ∃ request answer, ⟨.http request, .ok answer⟩ ∈ calls ∧ answer.isOk = true ∧
          ResponsePath.extract answer.body answer.json content.responsePath = .ok value
  | _ => False

/-- A variable has been set, and every other one that is left is as it was. -/
structure Sets (name value : String) (before after : Variables) : Prop where
  own : Table.lookup? name after = some value
  others : ∀ key old, key ≠ name → Table.lookup? key after = some old →
    Table.lookup? key before = some old

theorem sets_put (name value : String) (before : Variables) :
    Sets name value before (Table.put name value before) := by
  constructor
  · exact Table.lookup?_put_self name value before
  · intro key old other found
    rwa [Table.lookup?_put, if_neg other.symm] at found

theorem Sets.of_remove {key : String} {before after : Variables}
    (sets : Sets name value (Table.remove key before) after) : Sets name value before after := by
  constructor
  · exact sets.own
  · intro other old different found
    have kept := sets.others other old different found
    rw [Table.lookup?_remove] at kept
    split at kept
    · cases kept
    · exact kept

theorem evaluateInput_sets {content : InputContent} (resumed : context.isResume = true)
    (taken : (trim (context.inboundText.getD "")).isEmpty = true ∧ content.required = false ∨
      Reply.isValid (some (trim (context.inboundText.getD ""))) content.form = true) :
    Sets content.variableName (trim (context.inboundText.getD "")) context.bag
      (evaluateInput content context).bag := by
  unfold evaluateInput
  rw [resumed]
  simp only [Bool.not_true, Bool.false_eq_true, if_false]
  split
  · next blank =>
      rw [Bool.and_eq_true] at blank
      rw [String.isEmpty_iff.mp blank.1, advance_bag]
      exact sets_put _ _ _
  · next filled =>
      have valid := taken.resolve_left fun blank => filled (by simp [blank])
      rw [if_pos valid, advance_bag]
      exact sets_put _ _ _

theorem evaluateMenu_sets {content : MenuContent} {index : Nat} {option : MenuOption}
    (resumed : context.isResume = true) (named : given? content.variableName = some name)
    (chosen : Reply.matchOption context.inboundText content.options = .ok (some (index, option)))
    (done : evaluateMenu node.id content context = .ok result) :
    Sets name (givenOr (some option.label) (option.value.getD "")) context.bag result.bag := by
  unfold evaluateMenu at done
  rw [resumed, chosen] at done
  cases done
  rw [leaveMenu_bag]
  unfold menuVariables
  rw [named]
  exact (sets_put _ _ _).of_remove

/-- A node calls outside once at most. -/
theorem lone_call (ran : Transcript (evaluate services node context) calls (.ok result))
    {entry other : Answered Call.Answer} (member : entry ∈ calls) (otherMember : other ∈ calls)
    (outbound : entry.request.isOutbound = true) (otherOutbound : other.request.isOutbound = true) :
    entry = other := by
  have few : outboundCalls calls ≤ 1 := by
    have asked := evaluate_asks ran
    split at asked
    · exact asked
    · omega
  unfold outboundCalls at few
  rw [List.countP_eq_length_filter] at few
  have first : entry ∈ calls.filter fun asked => asked.request.isOutbound :=
    List.mem_filter.mpr ⟨member, outbound⟩
  have second : other ∈ calls.filter fun asked => asked.request.isOutbound :=
    List.mem_filter.mpr ⟨otherMember, otherOutbound⟩
  cases asked : calls.filter fun asked => asked.request.isOutbound with
  | nil =>
      rw [asked] at first
      cases first
  | cons only rest =>
      rw [asked] at first second few
      have none : rest = [] := by
        apply List.length_eq_zero_iff.mp
        simpa using few
      subst none
      rw [List.mem_singleton.mp first, List.mem_singleton.mp second]

theorem evaluateAi_sets {content : AiContent} {request : AiRequest}
    (ran : Transcript (evaluate services node context) calls (.ok result))
    (given : node.content = .aiResponse content)
    (replied : ⟨.complete request, .ok (.str value)⟩ ∈ calls) :
    Sets (givenOr content.saveToVariable "resposta_ia") value context.bag result.bag := by
  have whole := ran
  unfold evaluate at ran
  rw [given] at ran
  rcases evaluateAi_comes ran with ⟨other, reply, member, taken⟩ | ⟨unreplied, _⟩ | ⟨_, _, _, _, same⟩
  · cases lone_call whole member replied rfl rfl
    unfold takeReply at taken
    cases taken
    rw [advance_bag]
    exact sets_put _ _ _
  · rw [replied_of_mem replied] at unreplied
    cases unreplied
  · cases same

theorem evaluateWebhook_sets {content : WebhookContent} {request : HttpRequest} {answer : HttpAnswer}
    (ran : Transcript (evaluate services node context) calls (.ok result))
    (given : node.content = .webhook content) (named : given? content.responseVariable = some name)
    (answered : ⟨.http request, .ok answer⟩ ∈ calls) (good : answer.isOk = true)
    (extracted : ResponsePath.extract answer.body answer.json content.responsePath = .ok value) :
    Sets name value context.bag result.bag := by
  have whole := ran
  unfold evaluate evaluateWebhook at ran
  rw [given] at ran
  dsimp only at ran
  rcases Transcript.of_bind ran with ⟨outcome, sent, later, rfl, requested, rest⟩ | ⟨_, _, same⟩
  · rcases sendRequest_comes requested with ⟨other, taken, code, member, _, same⟩ |
      ⟨failed, code, error, same⟩ | ⟨_, _, _, _, same⟩
    · cases same
      cases lone_call whole (List.mem_append_left later member) answered rfl rfl
      dsimp only at rest
      rw [named] at rest
      dsimp only at rest
      rw [extracted] at rest
      obtain ⟨rfl, same⟩ := Transcript.of_done rest
      cases same
      rw [advance_bag]
      exact sets_put _ _ _
    · cases same
      dsimp only at rest
      -- after an error nothing is called, so that the answer would be the request's own
      have unasked : later = [] := by
        split at rest
        · exact (Transcript.of_done rest).1
        · split at rest
          · exact (Transcript.of_done rest).1
          · exact (Transcript.of_done rest).1
      rw [unasked, List.append_nil] at answered
      rw [succeeded_of_mem answered good] at failed
      cases failed
    · cases same
  · cases same

theorem evaluate_sets (ran : Transcript (evaluate services node context) calls (.ok result))
    (assigns : Assigns node context calls name value) : Sets name value context.bag result.bag := by
  have whole := ran
  unfold Assigns at assigns
  unfold evaluate at ran
  cases content : node.content with
  | input given =>
      rw [content] at assigns ran
      obtain ⟨resumed, rfl, rfl, taken⟩ := assigns
      obtain ⟨_, same⟩ := Transcript.of_done ran
      cases same
      exact evaluateInput_sets resumed taken
  | menu given =>
      rw [content] at assigns ran
      obtain ⟨resumed, named, index, option, chosen, rfl⟩ := assigns
      exact evaluateMenu_sets resumed named chosen (Transcript.of_ofExcept ran).2.symm
  | action given =>
      rw [content] at assigns ran
      obtain ⟨setting, named, rfl⟩ := assigns
      obtain ⟨_, same⟩ := Transcript.of_done ran
      cases same
      unfold evaluateAction
      rw [setting, named]
      dsimp only
      rw [advance_bag]
      exact sets_put _ _ _
  | aiResponse given =>
      rw [content] at assigns
      obtain ⟨rfl, request, replied⟩ := assigns
      exact evaluateAi_sets whole content replied
  | webhook given =>
      rw [content] at assigns
      obtain ⟨named, request, answer, answered, good, extracted⟩ := assigns
      exact evaluateWebhook_sets whole content named answered good extracted
  | start given | message given | condition given | transfer given | delay given | finish given =>
      rw [content] at assigns
      exact assigns.elim

/-- A name is read as one of its spellings that are set. Read under the spelling that a node has written,
it is the value written; and so it is under every other one, where no other is set. Where another spelling
is found, the name is read as the value that this one had before. Between braces, a spelling that cannot
stand in a placeholder is no name at all. -/
theorem written_values_read_where_found {read : String}
    (ran : Transcript (evaluate services node context) calls (.ok result))
    (assigns : Assigns node context calls name value) (isName : IsName name)
    (alike : lower read = lower name) :
    (∃ key, Variables.Finds result.bag read key ∧ lower key = lower name) ∧
      (∀ key, Variables.Finds result.bag read key →
        (key = name → Variables.ReadsAs result.bag read value) ∧
        (key ≠ name → ∃ old, Table.lookup? key context.bag = some old ∧
          Variables.ReadsAs result.bag read old)) ∧
      (read = name ∨ (∀ other ∈ Table.names context.bag, lower other = lower name → other = name) →
        Variables.Finds result.bag read name) := by
  have sets := evaluate_sets ran assigns
  have isBare := isName.isBare alike
  have present : name ∈ Table.names result.bag := List.mem_map_of_mem (Table.mem_of_lookup? sets.own)
  obtain ⟨key, finds, same⟩ := Variables.exists_finds present alike.symm
  refine ⟨⟨key, finds, same.trans alike⟩, ?_, ?_⟩
  · intro key finds
    obtain ⟨found, held, text⟩ := Variables.textOf_of_finds finds
    constructor
    · rintro rfl
      rw [sets.own] at held
      cases held
      exact Variables.readsAs_of_textOf isBare text
    · intro other
      exact ⟨found, sets.others key found other held, Variables.readsAs_of_textOf isBare text⟩
  · rintro (rfl | lone)
    · exact .itself present
    · obtain ⟨found, held, _⟩ := Variables.textOf_of_finds finds
      by_cases own : key = name
      · exact own ▸ finds
      · have before := Table.mem_of_lookup? (sets.others key found own held)
        exact absurd (lone key (List.mem_map_of_mem before) (same.trans alike)) own

/-- A node that sets one variable. -/
def setting (name value : String) : Node :=
  ⟨"definir", none, Position.origin, .action ⟨.setVariable, some name, some value, none, none, none,
    none, none, none, none, none, none, none, []⟩, []⟩

/-- A name that is set under one spelling is read under another one. -/
theorem written_values_read_where_found_alone :
    ∃ calls result, Transcript (evaluate .all (setting "nome" "Ana")
        { consultation with bag := [("cidade", "Recife")] }) calls (.ok result) ∧
      Assigns (setting "nome" "Ana") { consultation with bag := [("cidade", "Recife")] } calls "nome"
        "Ana" ∧
      IsName "nome" ∧ lower "NOME" = lower "nome" ∧ Variables.ReadsAs result.bag "NOME" "Ana" := by
  have ran := consult_transcript helpful (evaluate .all (setting "nome" "Ana")
    { consultation with bag := [("cidade", "Recife")] })
  have assigns (calls : List (Answered Call.Answer)) : Assigns (setting "nome" "Ana")
      { consultation with bag := [("cidade", "Recife")] } calls "nome" "Ana" :=
    ⟨rfl, rfl, by decide +kernel⟩
  have isName : IsName "nome" := ⟨by decide, List.all_eq_true.mp (by decide +kernel)⟩
  have alike : lower "NOME" = lower "nome" := by rfl
  obtain ⟨_, reads, finds⟩ := written_values_read_where_found ran (assigns _) isName alike
  exact ⟨_, _, ran, assigns _, isName, alike,
    (reads "nome" (finds (Or.inr (by decide)))).1 rfl⟩

/-- A value written under one spelling is missed where another spelling was set first; and it stays out of
a text under a spelling that cannot stand in a placeholder. -/
theorem written_value_missed_under_other_spelling :
    (∃ calls result, Transcript (evaluate .all (setting "nome" "novo")
        { consultation with bag := [("Nome", "velho")] }) calls (.ok result) ∧
      Assigns (setting "nome" "novo") { consultation with bag := [("Nome", "velho")] } calls "nome"
        "novo" ∧
      IsName "nome" ∧ lower "NOME" = lower "nome" ∧ variableText result.bag "NOME" = "velho" ∧
      interpolate result.bag (braced "NOME") = "velho" ∧
      Condition.ruleHolds result.bag ⟨"NOME", .equals, some "novo"⟩ = false) ∧
    ∃ calls result, Transcript (evaluate .all (setting "İ" "novo")
        { consultation with bag := [] }) calls (.ok result) ∧
      Assigns (setting "İ" "novo") { consultation with bag := [] } calls "İ" "novo" ∧
      IsName "İ" ∧ lower "i\u0307" = lower "İ" ∧
      interpolate result.bag (braced "i\u0307") = braced "i\u0307" := by
  constructor
  · have ran := consult_transcript helpful (evaluate .all (setting "nome" "novo")
      { consultation with bag := [("Nome", "velho")] })
    have isName : IsName "nome" := ⟨by decide, List.all_eq_true.mp (by decide +kernel)⟩
    exact ⟨_, _, ran, ⟨rfl, rfl, by decide +kernel⟩, isName, by rfl, by decide +kernel,
      by decide +kernel, by decide +kernel⟩
  · have ran := consult_transcript helpful (evaluate .all (setting "İ" "novo")
      { consultation with bag := [] })
    have isName : IsName "İ" := ⟨by decide, List.all_eq_true.mp (by decide +kernel)⟩
    exact ⟨_, _, ran, ⟨rfl, rfl, by decide +kernel⟩, isName, by rfl, by decide +kernel⟩

end Evaluation

end ChatFlow

import ChatFlow.Engine.ResponsePath
import ChatFlow.Proofs.Numerals
/-
Paths into answers. A dotted path leads to a part of a value as its segments name members of objects
and positions in lists; what is taken out of an answer is the text of the part that the path leads to,
and the empty text where it leads nowhere. Every part of a value is found under the names and positions
on the way to it, as long as no name has a dot.
-/

set_option autoImplicit false

namespace ChatFlow.ResponsePath

open Text

/-! ### Parts of values -/

/-- Where a part stands in the value around it. -/
inductive Place where
  | key (name : String)
  | position (index : Nat)
  deriving DecidableEq

inductive Holds : Value → Place → Value → Prop where
  | member {members : Table Value} {name : String} {part : Value}
      (found : Table.lookup? name members = some part) : Holds (.obj members) (.key name) part
  | item {items : List Value} {index : Nat} {part : Value} (found : items[index]? = some part) :
      Holds (.arr items) (.position index) part

/-- A part of a value, of a part of it, and so on. -/
inductive Reaches : Value → List Place → Value → Prop where
  | here (value : Value) : Reaches value [] value
  | inside {value part found : Value} {place : Place} {rest : List Place}
      (holds : Holds value place part) (reaches : Reaches part rest found) :
      Reaches value (place :: rest) found

/-- A segment names a member, and as decimal digits of any script it numbers a position. -/
inductive Addresses : List Char → Place → Prop where
  | key (name : String) : Addresses name.toList (.key name)
  | position {segment : List Char} (decimal : isDecimal segment = true) :
      Addresses segment (.position (digitsValue segment))

/-- The value that segments lead to, one after the other. -/
inductive Leads : Value → List (List Char) → Value → Prop where
  | here (value : Value) : Leads value [] value
  | onward {value part found : Value} {segment : List Char} {place : Place}
      {rest : List (List Char)} (addresses : Addresses segment place)
      (holds : Holds value place part) (leads : Leads part rest found) :
      Leads value (segment :: rest) found

/-- How a value is shown: a text as it is, null as the empty text, anything else as JSON. -/
inductive Shows : Value → String → Prop where
  | text (text : String) : Shows (.str text) text
  | null : Shows .null ""
  | json {value : Value} (textless : ∀ text, value ≠ .str text) (present : value ≠ .null) :
      Shows value (Json.toText value)

/-! ### Segments -/

/-- The segments of a path, which dots separate. -/
def segmentsOf (path : String) : List (List Char) := path.toList.splitOn '.'

/-- A decimal segment is no longer than a numeral may be. -/
def IsShort (segment : List Char) : Prop :=
  isDecimal segment = true → segment.length ≤ maxNumeralDigits

instance (segment : List Char) : Decidable (IsShort segment) :=
  inferInstanceAs (Decidable (_ → _))

theorem splitWhere_eq_splitOn (mark : Char) (characters : List Char) :
    splitWhere (· == mark) characters = characters.splitOn mark := by
  induction characters with
  | nil => rfl
  | cons character rest ih =>
      have filled : rest.splitOn mark ≠ [] := List.splitOnP_ne_nil _ _
      have onward : (character :: rest).splitOn mark =
          if character == mark then [] :: rest.splitOn mark
          else (rest.splitOn mark).modifyHead (character :: ·) :=
        List.splitOnP_cons_eq_if_modifyHead character rest
      rw [splitWhere, ih, onward]
      cases parts : rest.splitOn mark with
      | nil => exact absurd parts filled
      | cons piece others => rfl

/-! ### Following a path -/

/-- One segment leads to at most one part, and a short one is always followed. -/
theorem step_spec {segment : List Char} (short : IsShort segment) (value : Value) :
    ∃ result, step value segment = .ok result ∧
      ∀ part, result = some part ↔ ∃ place, Addresses segment place ∧ Holds value place part := by
  cases value with
  | obj members =>
      refine ⟨_, rfl, fun part => ⟨fun found => ?_, fun held => ?_⟩⟩
      · have named := Addresses.key (String.ofList segment)
        rw [String.toList_ofList] at named
        exact ⟨_, named, .member found⟩
      · obtain ⟨place, addresses, holds⟩ := held
        cases holds with
        | member found =>
            cases addresses
            rwa [String.ofList_toList]
  | arr items =>
      by_cases decimal : isDecimal segment = true
      · refine ⟨items[digitsValue segment]?, ?_, fun part => ⟨fun found => ?_, fun held => ?_⟩⟩
        · have within := short decimal
          simp only [step, decimal, if_true]
          rw [if_neg (by omega)]
        · exact ⟨_, .position decimal, .item found⟩
        · obtain ⟨place, addresses, holds⟩ := held
          cases holds with
          | item found =>
              cases addresses
              exact found
      · refine ⟨none, by simp [step, decimal], fun part => ⟨nofun, fun held => ?_⟩⟩
        obtain ⟨place, addresses, holds⟩ := held
        cases holds with
        | item =>
            cases addresses with
            | position digits => exact absurd digits decimal
  | null | bool | int | real | str | stamp | objectId =>
      refine ⟨none, rfl, fun part => ⟨nofun, fun held => ?_⟩⟩
      obtain ⟨place, addresses, holds⟩ := held
      cases holds

theorem follow_spec {segments : List (List Char)} (short : ∀ segment ∈ segments, IsShort segment)
    (value : Value) :
    ∃ result, follow value segments = .ok result ∧
      ∀ found, result = some found ↔ Leads value segments found := by
  induction segments generalizing value with
  | nil =>
      refine ⟨some value, rfl, fun found => ⟨fun same => ?_, fun leads => ?_⟩⟩
      · cases same
        exact .here value
      · cases leads
        rfl
  | cons segment rest ih =>
      rw [List.forall_mem_cons] at short
      obtain ⟨result, stepped, parts⟩ := step_spec short.1 value
      cases result with
      | none =>
          refine ⟨none, by rw [follow, stepped], fun found => ⟨nofun, fun leads => ?_⟩⟩
          cases leads with
          | onward addresses holds _ => cases (parts _).mpr ⟨_, addresses, holds⟩
      | some part =>
          obtain ⟨result, followed, leading⟩ := ih short.2 part
          refine ⟨result, by rw [follow, stepped]; exact followed, fun found => ?_⟩
          rw [leading]
          constructor
          · intro leads
            obtain ⟨place, addresses, holds⟩ := (parts part).mp rfl
            exact .onward addresses holds leads
          · intro leads
            cases leads with
            | onward addresses holds leads =>
                cases (parts _).mpr ⟨_, addresses, holds⟩
                exact leads

theorem shows_textOf (value : Value) : Shows value (textOf value) := by
  cases value with
  | null => exact .null
  | str text => exact .text text
  | bool | int | real | stamp | objectId | arr | obj => exact .json nofun nofun

theorem extract_eq (body : String) {json : Value} {path : String} (present : json ≠ .null)
    (written : path ≠ "") :
    extract body json (some path) =
      match follow json (segmentsOf path) with
      | .error fault => .error fault
      | .ok none => .ok ""
      | .ok (some value) => .ok (textOf value) := by
  have filled : path.isEmpty = false := by simpa using written
  have split : splitWhere (· == '.') path.toList = segmentsOf path := splitWhere_eq_splitOn '.' _
  rw [← split]
  exact (if_neg (by rw [filled]; exact Bool.false_ne_true)).trans (if_neg present)

/-! ### Writing paths -/

/-- A place as a segment. -/
def Place.written : Place → List Char
  | .key name => name.toList
  | .position index => Nat.toDigits 10 index

/-- The path of some places. -/
def pathTo (places : List Place) : String :=
  String.ofList (['.'].intercalate (places.map Place.written))

theorem isDecimal_toDigits (index : Nat) : isDecimal (Nat.toDigits 10 index) = true := by
  have digits : (Nat.toDigits 10 index).all isDigit = true := by
    rw [List.all_eq_true]
    intro digit member
    rw [isDigit, (plainDigit_of_mem_toDigits digit member).value]
    rfl
  simp [isDecimal, digits]

theorem dotless_toDigits (index : Nat) : '.' ∉ Nat.toDigits 10 index := by
  intro member
  have digit := (plainDigit_of_mem_toDigits '.' member).ascii
  revert digit
  decide

theorem segmentsOf_pathTo {places : List Place} (filled : places ≠ [])
    (plain : ∀ name, .key name ∈ places → '.' ∉ name.toList) :
    segmentsOf (pathTo places) = places.map Place.written := by
  unfold segmentsOf pathTo
  rw [String.toList_ofList]
  apply List.splitOn_intercalate '.'
  · intro segment member
    rw [List.mem_map] at member
    obtain ⟨place, among, rfl⟩ := member
    cases place with
    | key name => exact plain name among
    | position index => exact dotless_toDigits index
  · simpa using filled

theorem step_written {value part : Value} {place : Place} (holds : Holds value place part)
    (small : ∀ index, place = .position index → index < 10 ^ maxNumeralDigits) :
    step value place.written = .ok (some part) := by
  cases holds with
  | @member members name part found =>
      simp only [Place.written, step, String.ofList_toList, found]
  | @item items index part found =>
      have length : (Nat.toDigits 10 index).length ≤ maxNumeralDigits :=
        (Nat.length_toDigits_le_iff (by decide) (by decide)).mpr (small index rfl)
      simp only [Place.written, step, isDecimal_toDigits, if_true, digitsValue_toDigits, found]
      rw [if_neg (by omega)]

theorem follow_written {value found : Value} {places : List Place}
    (reaches : Reaches value places found)
    (small : ∀ index, .position index ∈ places → index < 10 ^ maxNumeralDigits) :
    follow value (places.map Place.written) = .ok (some found) := by
  induction reaches with
  | here value => rfl
  | inside holds _ ih =>
      have first := step_written holds fun index same => small index (same ▸ List.mem_cons_self)
      rw [List.map_cons, follow, first]
      exact ih fun index member => small index (List.mem_cons_of_mem _ member)

/-- Along a path of short segments an answer is always taken out: it shows the part that the path
leads to, and is empty where it leads nowhere. Every part is found by its path, if that is not
empty. -/
theorem paths_address_parts (body : String) {json : Value} (present : json ≠ .null) :
    (∀ path, path ≠ "" → (∀ segment ∈ segmentsOf path, IsShort segment) →
      ∃ answer, extract body json (some path) = .ok answer ∧
        (∀ found, Leads json (segmentsOf path) found → Shows found answer) ∧
        ((∀ found, ¬Leads json (segmentsOf path) found) → answer = "")) ∧
    ∀ places found, Reaches json places found → pathTo places ≠ "" →
      (∀ name, .key name ∈ places → '.' ∉ name.toList) →
      (∀ index, .position index ∈ places → index < 10 ^ maxNumeralDigits) →
      ∃ answer, extract body json (some (pathTo places)) = .ok answer ∧ Shows found answer := by
  constructor
  · intro path written short
    obtain ⟨result, followed, leading⟩ := follow_spec short json
    rw [extract_eq body present written, followed]
    cases result with
    | none =>
        refine ⟨"", rfl, fun found leads => ?_, fun _ => rfl⟩
        cases (leading found).mpr leads
    | some found =>
        refine ⟨textOf found, rfl, fun other leads => ?_, fun nowhere => ?_⟩
        · cases (leading other).mpr leads
          exact shows_textOf found
        · exact absurd ((leading found).mp rfl) (nowhere found)
  · intro places found reaches written plain small
    have filled : places ≠ [] := by
      intro empty
      rw [empty] at written
      exact written rfl
    refine ⟨textOf found, ?_, shows_textOf found⟩
    rw [extract_eq body present written, segmentsOf_pathTo filled plain,
      follow_written reaches small]

/-- An order with one item and an empty place behind it. -/
def order : Value := .obj [("itens", .arr [.obj [("id", .int 7)], .null])]

theorem paths_address_parts_order :
    order ≠ .null ∧ extract "" order (some "itens.0.id") = .ok "7" ∧
    extract "" order (some "itens.٢") = .ok "" := by
  have present : order ≠ .null := nofun
  have addressed := paths_address_parts "" present
  have reaches : Reaches order [.key "itens", .position 0, .key "id"] (.int 7) :=
    .inside (.member rfl) (.inside (.item rfl) (.inside (.member rfl) (.here _)))
  obtain ⟨answer, extracted, shown⟩ := addressed.2 _ _ reaches (by decide)
    (fun name member => by
      simp only [List.mem_cons, Place.key.injEq, reduceCtorEq, List.not_mem_nil, or_false, false_or]
        at member
      rcases member with rfl | rfl <;> decide)
    (fun index member => by
      simp only [List.mem_cons, Place.position.injEq, reduceCtorEq, List.not_mem_nil, or_false,
        false_or] at member
      rw [member]
      exact Nat.pow_pos (by decide))
  have seven : answer = "7" := by
    cases shown with
    | json => rfl
  have short : ∀ segment ∈ segmentsOf "itens.٢", IsShort segment := by decide
  -- a third item is sought in a list of two
  have nowhere : ∀ found, ¬Leads order (segmentsOf "itens.٢") found := by
    intro found leads
    obtain ⟨result, followed, leading⟩ := follow_spec short order
    have missed : follow order (segmentsOf "itens.٢") = .ok none := by rfl
    rw [missed] at followed
    cases followed
    cases (leading found).mpr leads
  obtain ⟨missing, extracted', _, empty⟩ := addressed.1 "itens.٢" (by decide) short
  rw [seven] at extracted
  rw [empty nowhere] at extracted'
  exact ⟨present, extracted, extracted'⟩

end ChatFlow.ResponsePath

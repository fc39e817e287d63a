import Mathlib.Data.List.Forall2
import ChatFlow.Graph.Node
import ChatFlow.Graph.Edge
import ChatFlow.Proofs.FlowRows
/-
Records that are read again from how they are written. A field is written in a form that its type
takes back as it is, and an absent field is written with its default; members that a record does not
know are written in plain form, and plain form is plain already.
-/

set_option autoImplicit false

namespace ChatFlow

open Schema

/-! ### Plain form -/

namespace Value

mutual

theorem toPlain_toPlain : (value : Value) → value.toPlain.toPlain = value.toPlain
  | .null | .bool _ | .int _ | .str _ | .stamp _ | .objectId _ => rfl
  | .real value => by
      cases finite : value.isFinite <;> simp [toPlain, finite]
  | .arr items => by
      simp only [toPlain, toPlainItems_toPlainItems items]
  | .obj members => by
      simp only [toPlain, toPlainMembers_toPlainMembers members]

theorem toPlainItems_toPlainItems :
    (items : List Value) → toPlainItems (toPlainItems items) = toPlainItems items
  | [] => rfl
  | value :: rest => by
      simp only [toPlainItems, toPlain_toPlain value, toPlainItems_toPlainItems rest]

theorem toPlainMembers_toPlainMembers :
    (members : Table Value) → toPlainMembers (toPlainMembers members) = toPlainMembers members
  | [] => rfl
  | (name, value) :: rest => by
      simp only [toPlainMembers, toPlain_toPlain value, toPlainMembers_toPlainMembers rest]

end

/-- Plain form keeps every name. -/
theorem toPlainMembers_names (members : Table Value) :
    Table.names (toPlainMembers members) = Table.names members := by
  induction members with
  | nil => rfl
  | cons entry rest ih => exact congrArg (entry.1 :: ·) ih

end Value

/-! ### Reading what is accepted -/

section

variable {α β : Type}

/-- What was made of a list one by one was made of its members. -/
theorem mem_of_forall₂ {makes : α → β → Prop} {items : List α} {results : List β}
    (each : List.Forall₂ makes items results) :
    ∀ result ∈ results, ∃ item ∈ items, makes item result := by
  induction each with
  | nil => exact nofun
  | @cons item result items _ first _ ih =>
      rintro other (_ | ⟨_, later⟩)
      · exact ⟨item, List.mem_cons_self, first⟩
      · obtain ⟨source, member, made⟩ := ih other later
        exact ⟨source, List.mem_cons_of_mem _ member, made⟩

@[simp]
theorem Checked.map_of_accepted (change : α → β) (value : α) :
    (change <$> Checked.accepted value) = .accepted (change value) := rfl

@[simp]
theorem Checked.seq_of_accepted (change : α → β) (value : α) :
    (Checked.accepted change <*> Checked.accepted value) = .accepted (change value) := rfl

@[simp]
theorem Checked.under_of_accepted (step : PathStep) (value : α) :
    (Checked.accepted value).under step = .accepted value := rfl

theorem Checked.andThen_accepted {checked : Checked α} {next : α → Checked β} {value : β}
    (done : checked.andThen next = .accepted value) :
    ∃ given, checked = .accepted given ∧ next given = .accepted value := by
  cases checked with
  | rejected issues => cases done
  | accepted given => exact ⟨given, rfl, done⟩

theorem Checked.Yields.map {good : β → Prop} {change : α → β} {checked : Checked α}
    (yields : ∀ value, checked = .accepted value → good (change value)) :
    Checked.Yields good (change <$> checked) := by
  intro value done
  obtain ⟨given, read, rfl⟩ := Checked.map_accepted done
  exact yields given read

/-- What is known of each part is known of the whole. -/
theorem Checked.Yields.both {good : β → Prop} {first : Checked (α → β)} {second : Checked α}
    (yields : Checked.Yields (fun change => ∀ value, second = .accepted value → good (change value))
      first) : Checked.Yields good (first <*> second) := by
  intro value done
  obtain ⟨change, given, read, known, rfl⟩ := Checked.seq_accepted done
  exact yields change read given known

theorem Checked.Yields.last {good : β → Prop} {first : Checked (α → β)} {given : α}
    (yields : Checked.Yields (fun change => good (change given)) first) :
    Checked.Yields good (first <*> .accepted given) :=
  .both fun change read _ same => Checked.accepted.inj same ▸ yields change read

/-- What is known of the default and of all that is read is known of a field. -/
theorem Schema.withDefault_yields (good : α → Prop) {codec : Codec α} {name : String}
    {absent value : α} {members : Table Value}
    (read : withDefault codec name absent members = .accepted value) (ofAbsent : good absent)
    (ofRead : ∀ {given value}, codec.decode given = .accepted value → good value) : good value := by
  cases named : Table.lookup? name members with
  | none => exact withDefault_absent named read ▸ ofAbsent
  | some given => exact ofRead (withDefault_present named read)

theorem Schema.required_text {name text : String} {members : Table Value}
    (read : required .text name members = .accepted text) :
    Table.lookup? name members = some (.str text) := by
  unfold required at read
  cases named : Table.lookup? name members with
  | none =>
      rw [named] at read
      cases read
  | some given =>
      rw [named] at read
      cases given with
      | str own =>
          cases read
          rfl
      | _ => cases read

/-- Members of which a record with these fields knows none. -/
def Schema.Unknown (fields : List String) (extras : Table Value) : Prop :=
  ∀ name ∈ Table.names extras, name ∉ fields

theorem Schema.unknown_extraMembers (fields : List String) (members : Table Value) :
    Unknown fields (extraMembers fields members) := by
  intro name present
  obtain ⟨entry, member, rfl⟩ := List.mem_map.mp present
  simpa using (List.mem_filter.mp member).2

/-- The members that a record does not know are found again behind those that it knows. -/
theorem Schema.extraMembers_written {fields : List String} {known extras : Table Value}
    (names : Table.names known = fields) (unknown : Unknown fields extras) :
    extraMembers fields (known ++ Value.toPlainMembers extras) = Value.toPlainMembers extras := by
  unfold extraMembers
  rw [List.filter_append, List.filter_eq_nil_iff.mpr, List.nil_append, List.filter_eq_self.mpr]
  · intro entry member
    have present : entry.1 ∈ Table.names (Value.toPlainMembers extras) := List.mem_map_of_mem member
    rw [Value.toPlainMembers_names] at present
    simpa using unknown entry.1 present
  · intro entry member
    have present : entry.1 ∈ fields := names ▸ List.mem_map_of_mem member
    simpa using present

end

/-! ### Codecs that take back what they write -/

namespace Codec

variable {α : Type}

/-- A value is read from its written form as it is. -/
def Steady (codec : Codec α) (value : α) : Prop :=
  codec.decode (codec.encode value) = .accepted value

theorem Steady.taken {codec : Codec α} {value : α} (steady : codec.Steady value) :
    codec.decode (codec.encode value) = .accepted value :=
  steady

@[simp]
theorem text_decode (text : String) : Codec.text.decode (.str text) = .accepted text := rfl

@[simp]
theorem boolean_decode (value : Bool) : boolean.decode (.bool value) = .accepted value := rfl

@[simp]
theorem integer_decode (value : Int) : integer.decode (.int value) = .accepted value := rfl

@[simp]
theorem stamp_decode (value : Stamp) : stamp.decode (.stamp value) = .accepted value := rfl

@[simp]
theorem real_decode (value : Binary64) : real.decode (.real value) = .accepted value := rfl

@[simp]
theorem optional_text_decode (text : Option String) :
    (optional .text).decode (.ofText? text) = .accepted text := by
  cases text <;> rfl

@[simp]
theorem optional_integer_decode (value : Option Int) :
    (optional integer).decode (.ofInt? value) = .accepted value := by
  cases value <;> rfl

@[simp]
theorem optional_stamp_decode (value : Option Stamp) :
    (optional stamp).decode (.ofStamp? value) = .accepted value := by
  cases value <;> rfl

@[simp]
theorem textTable_decode (table : Table String) :
    textTable.decode (.ofTextTable table) = .accepted table := by
  have members : decodeMembers .text (Table.mapValues .str table) = .accepted table := by
    induction table with
    | nil => rfl
    | cons entry rest ih =>
        rw [Table.mapValues] at ih
        rw [Table.mapValues, List.map_cons, decodeMembers, ih]
        rfl
  exact members

@[simp]
theorem optional_textTable_decode (table : Option (Table String)) :
    (optional textTable).decode ((table.map Value.ofTextTable).getD .null) = .accepted table := by
  cases table with
  | none => rfl
  | some table => exact congrArg (Checked.map some) (textTable_decode table)

@[simp]
theorem naturalFrom_decode {least number : Nat} (bound : least ≤ number) :
    (naturalFrom least).decode (.int number) = .accepted number := by
  have fits : ¬((number : Int) < (least : Int)) := by omega
  simp [naturalFrom, decodeInt, Checked.andThen, fits]

theorem naturalFrom_accepted {least number : Nat} {given : Value}
    (read : (naturalFrom least).decode given = .accepted number) : least ≤ number := by
  obtain ⟨value, _, read⟩ := Checked.andThen_accepted read
  split at read
  · cases read
  · cases read
    omega

theorem check_passed {decode : Value → Checked α} {written : Value} {check : α → Checked α}
    {value : α} (takes : decode written = .accepted value)
    (passes : check value = .accepted value) :
    (decode written).andThen check = .accepted value := by
  rw [takes]
  exact passes

theorem realAbove_accepted {bound : Int} {number : Binary64} {given : Value}
    (read : (realAbove bound).decode given = .accepted number) :
    (Binary64.ofInt bound).lt number = true := by
  obtain ⟨other, _, checked⟩ := Checked.andThen_accepted read
  cases fits : (Binary64.ofInt bound).lt other <;> rw [fits] at checked <;> cases checked
  exact fits

theorem realBetween_accepted {least most : Int} {number : Binary64} {given : Value}
    (read : (realBetween least most).decode given = .accepted number) :
    number.le (Binary64.ofInt most) = true ∧ (Binary64.ofInt least).le number = true := by
  obtain ⟨other, _, checked⟩ := Checked.andThen_accepted read
  cases below : other.le (Binary64.ofInt most) <;>
    cases above : (Binary64.ofInt least).le other <;>
    rw [below, above] at checked <;> cases checked
  exact ⟨below, above⟩

theorem realAbove_steady {bound : Int} {number : Binary64}
    (above : (Binary64.ofInt bound).lt number = true) : (realAbove bound).Steady number := by
  simp only [Steady, realAbove]
  exact check_passed rfl (if_pos above)

theorem realBetween_steady {least most : Int} {number : Binary64}
    (below : number.le (Binary64.ofInt most) = true)
    (above : (Binary64.ofInt least).le number = true) : (realBetween least most).Steady number := by
  simp only [Steady, realBetween]
  refine check_passed rfl ?_
  rw [below, above]
  rfl

/-! ### Words -/

/-- Every value of a finite type is found by its word. -/
class DistinctWords (α : Type) [Words α] : Prop where
  found : ∀ value : α, ofWord? (Words.word value) = some value

instance : DistinctWords MediaType := ⟨fun value => by cases value <;> rfl⟩
instance : DistinctWords InputForm := ⟨fun value => by cases value <;> rfl⟩
instance : DistinctWords ConditionOperator := ⟨fun value => by cases value <;> rfl⟩
instance : DistinctWords ConditionLogic := ⟨fun value => by cases value <;> rfl⟩
instance : DistinctWords ActionKind := ⟨fun value => by cases value <;> rfl⟩
instance : DistinctWords TransferKind := ⟨fun value => by cases value <;> rfl⟩
instance : DistinctWords DelayUnit := ⟨fun value => by cases value <;> rfl⟩
instance : DistinctWords HttpMethod := ⟨fun value => by cases value <;> rfl⟩
instance : DistinctWords NodeKind := ⟨fun value => by cases value <;> rfl⟩

@[simp]
theorem word_decode [Words α] [DistinctWords α] (kind : IssueKind) (value : α) :
    (word α kind).decode (wordValue value) = .accepted value := by
  simp [word, wordValue, DistinctWords.found]

/-! ### Lists -/

/-- Items are read one by one. -/
theorem decodeItems_eq_accepted {codec : Codec α} {position : Nat} {values : List Value}
    {items : List α} : decodeItems codec position values = .accepted items ↔
      List.Forall₂ (fun value item => codec.decode value = .accepted item) values items := by
  constructor
  · intro read
    induction values generalizing position items with
    | nil =>
        cases read
        exact .nil
    | cons value rest ih =>
        obtain ⟨change, others, first, last, rfl⟩ := @Checked.seq_accepted _ _ _ _ _ read
        obtain ⟨own, decoded, rfl⟩ := Checked.map_accepted first
        exact .cons (Checked.of_under decoded) (ih last)
  · intro each
    induction each generalizing position with
    | nil => rfl
    | cons first _ ih =>
        rw [decodeItems, first, ih]
        rfl

theorem decodeItems_encode {codec : Codec α} {items : List α}
    (steady : ∀ item ∈ items, codec.Steady item) (position : Nat) :
    decodeItems codec position (items.map codec.encode) = .accepted items :=
  decodeItems_eq_accepted.mpr (List.forall₂_map_left_iff.mpr (List.forall₂_same.mpr steady))

/-- Every item of a list that was read was read by itself. -/
theorem decodeItems_accepted {codec : Codec α} {position : Nat} {values : List Value}
    {items : List α} (read : decodeItems codec position values = .accepted items) :
    ∀ item ∈ items, ∃ value ∈ values, codec.decode value = .accepted item :=
  mem_of_forall₂ (decodeItems_eq_accepted.mp read)

/-- What holds of every value that is read holds of every item of a list that is read. -/
theorem items_of_read {good : α → Prop} {codec : Codec α} {name : String} {items : List α}
    {members : Table Value} (ofRead : ∀ value item, codec.decode value = .accepted item → good item)
    (read : withDefault (list codec) name [] members = .accepted items) :
    ∀ item ∈ items, good item := by
  refine withDefault_yields (fun items => ∀ item ∈ items, good item) read
    (fun _ member => nomatch member) ?_
  intro given items read item member
  cases given with
  | arr values =>
      obtain ⟨value, _, decoded⟩ := decodeItems_accepted read item member
      exact ofRead value item decoded
  | _ => cases read

theorem list_steady {codec : Codec α} {items : List α}
    (steady : ∀ item ∈ items, codec.Steady item) : (list codec).Steady items :=
  decodeItems_encode steady 0

@[simp]
theorem texts_decode (texts : List String) :
    (list .text).decode (.ofTexts texts) = .accepted texts :=
  list_steady fun _ _ => rfl

theorem length_decodeItems {codec : Codec α} {position : Nat} {values : List Value}
    {items : List α} (read : decodeItems codec position values = .accepted items) :
    items.length = values.length :=
  (decodeItems_eq_accepted.mp read).length_eq.symm

theorem listUpTo_accepted {most : Nat} {codec : Codec α} {items : List α} {given : Value}
    (read : (listUpTo most codec).decode given = .accepted items) : items.length ≤ most := by
  cases given with
  | arr values =>
      replace read : (if values.length > most then .reject .tooLong
        else decodeItems codec 0 values) = .accepted items := read
      split at read
      · cases read
      · have := length_decodeItems read
        omega
  | _ => cases read

theorem listUpTo_steady {most : Nat} {codec : Codec α} {items : List α}
    (bound : items.length ≤ most) (steady : ∀ item ∈ items, codec.Steady item) :
    (listUpTo most codec).Steady items := by
  have fits : ¬(items.map codec.encode).length > most := by
    rw [List.length_map]
    omega
  exact (if_neg fits).trans (decodeItems_encode steady 0)

end Codec

end ChatFlow

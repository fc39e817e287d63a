import ChatFlow.Proofs.CollectionMeaning
import ChatFlow.Proofs.StoredDocuments
/-
The log rows that a document database selects, and those that the store selects by itself. Rows are
documents under identifiers that grow with each row. Listed by time and identifier, the latest
first, they stand as a stable sort by time leaves them; so both list the same rows and remove the
same rows, except that to the database an empty name of a conversation is none.
-/

set_option autoImplicit false

namespace ChatFlow

open Schema

/-! ### Rows as documents -/

namespace Codec

instance : DistinctWords LogKind := ⟨fun value => by cases value <;> rfl⟩

end Codec

namespace LogEntry

def name (entry : LogEntry) : String := entry.id.getD ""

/-- A row as it is stored, with its time as it is: its identifier is that of the document. -/
def document (entry : LogEntry) : Table Value :=
  Table.put Documents.idField (.objectId entry.name) entry.documentMembers

variable {entry : LogEntry}

/-- A row is read again from its document. -/
theorem readRow_document (named : entry.id = some entry.name) (now : Stamp) :
    Documents.readRow (ofMembers now) (.obj entry.document) = .ok entry := by
  have spoken : (Value.objectId entry.name).spoken = entry.name := String.ofList_toList
  have read : ofMembers now
      (entry.documentMembers ++ [("id", .str (Value.objectId entry.name).spoken)]) =
        .accepted entry := by
    have present : (Codec.optional .text).decode (.str entry.name) = .accepted entry.id := by
      rw [named]
      rfl
    simp only [spoken, documentMembers, List.cons_append, List.nil_append, ofMembers, required,
      withDefault, Table.lookup?, String.reduceEq, ↓reduceIte, present,
      Checked.under_of_accepted, Checked.map_of_accepted, Checked.seq_of_accepted,
      Codec.text_decode, Codec.word_decode, Codec.optional_text_decode,
      Codec.optional_integer_decode, Codec.optional_textTable_decode, Codec.stamp_decode]
  have fresh : Documents.idField ∉ Table.names entry.documentMembers ∧
      "id" ∉ Table.names entry.documentMembers := by
    simp [Table.names, documentMembers, Documents.idField]
  exact Documents.readRow_stored (.objectId entry.name) fresh.1 fresh.2 read

/-! ### Rows that a query selects -/

/-- To the database an empty name of a conversation is none. -/
def heeded (conversation : Option String) : Option String :=
  conversation.filter fun name => !name.isEmpty

theorem meets_document (organization : String) (conversation : Option String) (entry : LogEntry) :
    Documents.meets (Documents.logQuery organization conversation) entry.document =
      Store.concerns organization (heeded conversation) entry := by
  have owner : Documents.valueOf "organization_id" entry.document = .str entry.organization := rfl
  have about : Documents.valueOf "conversation_id" entry.document = .str entry.conversation := rfl
  cases conversation with
  | none =>
      simp [Documents.meets, Documents.logQuery, Documents.isText, Documents.Clause.isMet, owner,
        Store.concerns, heeded]
  | some name =>
      by_cases empty : name.isEmpty = true
      · simp [Documents.meets, Documents.logQuery, Documents.isText, Documents.Clause.isMet, owner,
          Store.concerns, heeded, empty]
      · simp [Documents.meets, Documents.logQuery, Documents.isText, Documents.Clause.isMet, owner,
          about, Store.concerns, heeded, empty]

/-! ### The order of rows -/

/-- A row stands no later in a listing than another: it is of a later time, or of the same time and
under an identifier that is no smaller. -/
def Leads (first second : LogEntry) : Prop :=
  second.createdAt.position < first.createdAt.position ∨
    second.createdAt.position = first.createdAt.position ∧ second.name ≤ first.name

instance (first second : LogEntry) : Decidable (first.Leads second) :=
  inferInstanceAs (Decidable (_ ∨ _))

theorem Leads.trans {first middle last : LogEntry} (upper : first.Leads middle)
    (lower : middle.Leads last) : first.Leads last := by
  rcases upper with upper | ⟨level, upper⟩ <;> rcases lower with lower | ⟨flat, lower⟩
  · exact Or.inl (Int.lt_trans lower upper)
  · exact Or.inl (flat ▸ upper)
  · exact Or.inl (level ▸ lower)
  · exact Or.inr ⟨flat.trans level, String.le_trans lower upper⟩

/-- Rows that lead each other are under one identifier. -/
theorem Leads.name_eq {first second : LogEntry} (leads : first.Leads second)
    (back : second.Leads first) : first.name = second.name := by
  rcases leads with later | ⟨same, below⟩ <;> rcases back with earlier | ⟨_, above⟩
  · omega
  · omega
  · omega
  · exact String.le_antisymm above below

/-- The order of log listings is that of the rows. -/
theorem precedes_document (first second : LogEntry) :
    Documents.precedes Documents.latestEntry second.document first.document = false ↔
      first.Leads second := by
  have time (entry : LogEntry) :
      Documents.valueOf "created_at" entry.document = .stamp entry.createdAt := rfl
  have id (entry : LogEntry) :
      Documents.valueOf Documents.idField entry.document = .objectId entry.name := rfl
  have names : decide (first.name < second.name) = false ↔ second.name ≤ first.name :=
    decide_eq_false_iff_not.trans String.not_lt
  simp only [Documents.precedes, Documents.latestEntry, Documents.descending,
    Documents.SortKey.puts, time, id, Value.isBefore, Leads, ↓reduceIte, Bool.or_false,
    Bool.and_false, Bool.or_eq_false_iff, Bool.and_eq_false_imp, Bool.not_eq_eq_eq_not,
    Bool.not_true, names, decide_eq_false_iff_not]
  rcases Int.lt_trichotomy first.createdAt.position second.createdAt.position with
    earlier | same | later
  · simp only [earlier, Int.ne_of_gt earlier, Int.lt_asymm earlier, not_true_eq_false, false_and,
      or_self]
  · simp only [same, Int.lt_irrefl, not_false_eq_true, forall_const, true_and, false_or]
  · simp only [later, Int.lt_asymm later, not_false_eq_true, not_true_eq_false, false_implies,
      and_self, true_or]

end LogEntry

/-! ### Sorting -/

/-- All rows carry times of one kind of clock. -/
def OneClock (rows : List LogEntry) : Prop :=
  ∀ first ∈ rows, ∀ second ∈ rows, first.createdAt.offset.isSome = second.createdAt.offset.isSome

theorem OneClock.comparable {rows : List LogEntry} (oneClock : OneClock rows) :
    Store.areComparable (rows.map LogEntry.createdAt) = true :=
  Store.areComparable_iff.mpr oneClock

/-- Rows under falling identifiers are sorted by time so that each leads those behind it. -/
theorem sortLatestFirst_leads {rows sorted : List LogEntry}
    (falling : rows.Pairwise fun first second => second.name < first.name)
    (done : Store.sortLatestFirst LogEntry.createdAt rows = .ok sorted) :
    sorted.Pairwise LogEntry.Leads := by
  have before := @Store.sortLatestFirst_precedes _ LogEntry.createdAt rows sorted
    (fun first second => second.name ≤ first.name) _ (fun _ => String.le_refl _)
    (fun upper lower => String.le_trans lower upper) (fun _ _ => String.le_total _ _)
    (falling.imp fun below =>
      ⟨(String.le_total _ _).resolve_right (String.not_le.mpr below), String.not_le.mpr below⟩) done
  exact before

/-! ### The two stores side by side -/

/-- Rows under identifiers that grow from row to row. -/
structure Rising (rows : List LogEntry) : Prop where
  named : ∀ row ∈ rows, row.id = some row.name
  apart : rows.Pairwise fun first second => first.name < second.name

theorem Rising.sublist {rows fewer : List LogEntry} (rising : Rising rows)
    (within : fewer.Sublist rows) : Rising fewer :=
  ⟨fun row member => rising.named row (within.subset member), rising.apart.sublist within⟩

/-- Rows under one identifier are one row. -/
theorem Rising.unique {rows : List LogEntry} (rising : Rising rows) {first second : LogEntry}
    (member : first ∈ rows) (present : second ∈ rows) (same : first.name = second.name) :
    first = second := by
  obtain ⟨place, within, rfl⟩ := List.getElem_of_mem member
  obtain ⟨other, inside, rfl⟩ := List.getElem_of_mem present
  have apart := List.pairwise_iff_getElem.mp rising.apart
  rcases Nat.lt_trichotomy place other with before | rfl | after
  · exact absurd (same ▸ apart place other within inside before) (String.lt_irrefl _)
  · rfl
  · exact absurd (same ▸ apart other place inside within after) (String.lt_irrefl _)

namespace Documents

variable {rows sorted : List LogEntry} {organization : String} {conversation : Option String}
  {limit : Int} {now : Stamp}

def ofLogs (rows : List LogEntry) : List (Table Value) := rows.map LogEntry.document

theorem filter_ofLogs (rows : List LogEntry) (organization : String)
    (conversation : Option String) :
    (ofLogs rows).filter (meets (logQuery organization conversation)) =
      ofLogs (rows.filter (Store.concerns organization (LogEntry.heeded conversation))) := by
  rw [ofLogs, List.filter_map]
  exact congrArg ofLogs (List.filter_congr fun row _ =>
    LogEntry.meets_document organization conversation row)

theorem cut_map {α β : Type} (change : α → β) (limit : Option Int) (items : List α) :
    cut limit (items.map change) = (cut limit items).map change := by
  cases limit with
  | none => rfl
  | some limit => by_cases unlimited : limit = 0 <;> simp [cut, unlimited]

/-- A listing finds the documents of the rows that are sorted by time, and nothing else. -/
theorem lists_ofLogs (rising : Rising rows)
    (done : Store.sortLatestFirst LogEntry.createdAt
      (rows.filter (Store.concerns organization (LogEntry.heeded conversation))).reverse =
        .ok sorted) (limit : Option Int) (found : List (Table Value)) :
    Lists (ofLogs rows) (logQuery organization conversation) latestEntry limit found ↔
      found = ofLogs (cut limit sorted) := by
  have chosen := rising.sublist (List.filter_sublist (p :=
    Store.concerns organization (LogEntry.heeded conversation)))
  have leads := sortLatestFirst_leads (List.pairwise_reverse.mpr chosen.apart) done
  have same := ((Store.sortLatestFirst_perm done).trans (List.reverse_perm _)).map LogEntry.document
  have ordered : (ofLogs sorted).Pairwise fun first second =>
      precedes latestEntry second first = false :=
    List.pairwise_map.mpr (leads.imp (LogEntry.precedes_document _ _).mpr)
  unfold Lists
  rw [filter_ofLogs]
  constructor
  · rintro ⟨listed, among, inOrder, rfl⟩
    have every : listed = ofLogs sorted := by
      refine List.Perm.eq_of_pairwise ?_ inOrder ordered (among.trans same.symm)
      intro first second member present upper lower
      obtain ⟨row, stands, rfl⟩ := List.mem_map.mp (among.subset member)
      obtain ⟨other, follows, rfl⟩ := List.mem_map.mp (same.subset present)
      have one := ((LogEntry.precedes_document _ _).mp upper).name_eq
        ((LogEntry.precedes_document _ _).mp lower)
      rw [chosen.unique stands follows one]
    rw [every]
    exact cut_map _ _ _
  · rintro rfl
    exact ⟨ofLogs sorted, same, ordered, (cut_map _ _ _).symm⟩

/-! ### Programs -/

theorem readAll_ofLogs (named : ∀ row ∈ rows, row.id = some row.name) (now : Stamp) :
    readAll (LogEntry.ofMembers now) ⟨(ofLogs rows).map .obj, none⟩ = .done rows := by
  have read : ((ofLogs rows).map Value.obj).mapM (readRow (LogEntry.ofMembers now)) =
      .ok rows := by
    have each := @mapM_ok Value LogEntry LogEntry (readRow (LogEntry.ofMembers now))
      (fun row => .obj row.document) id rows fun row member =>
        LogEntry.readRow_document (named row member) now
    rw [ofLogs, List.map_map]
    rwa [List.map_id] at each
  unfold readAll
  rw [read]
  rfl

theorem comes_getLogs {contents later : List (Table Value)}
    {result : Except Fault (List LogEntry)} :
    Comes (answer now (.getLogs organization conversation limit)) contents result later ↔
      ∃ found, Lists contents (logQuery organization conversation) latestEntry (some limit) found ∧
        Comes (guarded (readAll (LogEntry.ofMembers now) ⟨found.map .obj, none⟩)) contents result
          later := by
  constructor
  · rintro ⟨⟨documents, fault⟩, middle, ⟨rfl, rfl, found, lists, rfl⟩, comes⟩
    exact ⟨found, lists, comes⟩
  · rintro ⟨found, lists, comes⟩
    exact ⟨⟨found.map .obj, none⟩, contents, ⟨rfl, rfl, found, lists, rfl⟩, comes⟩

theorem comes_deleteLogs {contents later : List (Table Value)} {result : Except Fault Nat} :
    Comes (answer now (.deleteLogs organization conversation)) contents result later ↔
      result = .ok (contents.countP (meets (logQuery organization conversation))) ∧
        later = contents.filter fun document =>
          !meets (logQuery organization conversation) document := by
  constructor
  · rintro ⟨count, middle, ⟨rfl, rfl⟩, comes⟩
    exact comes
  · rintro ⟨rfl, rfl⟩
    exact ⟨_, _, ⟨rfl, rfl⟩, rfl, rfl⟩

theorem cut_takeUpTo {α : Type} (positive : 1 ≤ limit) (items : List α) :
    cut (some limit) items = Store.takeUpTo limit items := by
  have limited : limit ≠ 0 := by omega
  have upward : ¬limit < 0 := by omega
  have same : limit.natAbs = limit.toNat := by omega
  rw [cut, if_neg limited, Store.takeUpTo, if_neg upward, same]

/-- At a collection of the rows of a store, what is asked for a conversation comes to the rows that
the store itself lists and removes for what it holds the conversation to be. -/
structure Selects (store : Store) (now : Stamp) (organization : String)
    (asked held : Option String) (limit : Int) : Prop where
  lists : ∀ rows, store.getLogs organization held limit = .ok rows →
    ∀ (result : Except Fault (List LogEntry)) (later : List (Table Value)),
      Comes (answer now (.getLogs organization asked limit)) (ofLogs store.logs) result later ↔
        result = .ok rows ∧ later = ofLogs store.logs
  removes : ∀ (result : Except Fault Nat) (later : List (Table Value)),
    Comes (answer now (.deleteLogs organization asked)) (ofLogs store.logs) result later ↔
      result = .ok (store.deleteLogs organization held).1 ∧
        later = ofLogs (store.deleteLogs organization held).2.logs

/-- The rows that a store lists, among the rows that it sorts. -/
theorem getLogs_ok {store : Store} {held : Option String} (positive : 1 ≤ limit)
    (listed : store.getLogs organization held limit = .ok rows) :
    ∃ sorted, Store.sortLatestFirst LogEntry.createdAt
        (store.logs.filter (Store.concerns organization held)).reverse = .ok sorted ∧
      rows = cut (some limit) sorted := by
  unfold Store.getLogs at listed
  cases done : Store.sortLatestFirst LogEntry.createdAt
      (store.logs.filter (Store.concerns organization held)).reverse with
  | error fault =>
      rw [done] at listed
      cases listed
  | ok sorted =>
      rw [done] at listed
      cases listed
      exact ⟨sorted, rfl, (cut_takeUpTo positive sorted).symm⟩

theorem cut_sublist {α : Type} (limit : Option Int) (items : List α) :
    (cut limit items).Sublist items := by
  cases limit with
  | none => exact List.Sublist.refl items
  | some limit => by_cases unlimited : limit = 0 <;> simp [cut, unlimited, List.take_sublist]

/-- Every row that is listed is one of the store. -/
theorem named_of_sorted {store : Store} {held : Option String} (rising : Rising store.logs)
    (done : Store.sortLatestFirst LogEntry.createdAt
      (store.logs.filter (Store.concerns organization held)).reverse = .ok sorted)
    (limit : Option Int) : ∀ row ∈ cut limit sorted, row.id = some row.name := by
  intro row listed
  have member := (Store.sortLatestFirst_perm done).subset ((cut_sublist limit sorted).subset listed)
  exact rising.named row (List.mem_filter.mp (List.mem_reverse.mp member)).1

theorem selects_heeded {store : Store} (rising : Rising store.logs) (now : Stamp)
    (organization : String) (conversation : Option String) (positive : 1 ≤ limit) :
    Selects store now organization conversation (LogEntry.heeded conversation) limit where
  lists rows listed result later := by
    obtain ⟨sorted, done, rfl⟩ := getLogs_ok positive listed
    have read := readAll_ofLogs (named_of_sorted rising done (some limit)) now
    refine comes_getLogs.trans ⟨?_, ?_⟩
    · rintro ⟨found, lists, comes⟩
      rw [(lists_ofLogs rising done (some limit) found).mp lists, read] at comes
      exact comes
    · rintro ⟨rfl, rfl⟩
      refine ⟨_, (lists_ofLogs rising done (some limit) _).mpr rfl, ?_⟩
      rw [read]
      exact ⟨rfl, rfl⟩
  removes result later := by
    refine comes_deleteLogs.trans ?_
    have count : (ofLogs store.logs).countP (meets (logQuery organization conversation)) =
        (store.deleteLogs organization (LogEntry.heeded conversation)).1 := by
      rw [List.countP_eq_length_filter, filter_ofLogs, ofLogs, List.length_map,
        ← List.countP_eq_length_filter]
      rfl
    have kept : (ofLogs store.logs).filter (fun document =>
          !meets (logQuery organization conversation) document) =
        ofLogs (store.deleteLogs organization (LogEntry.heeded conversation)).2.logs := by
      rw [ofLogs, List.filter_map]
      exact congrArg ofLogs (List.filter_congr fun row _ => congrArg Bool.not
        (LogEntry.meets_document organization conversation row))
    rw [count, kept]

theorem getLogs_succeeds {store : Store} (oneClock : OneClock store.logs) (organization : String)
    (conversation : Option String) (limit : Int) :
    ∃ rows, store.getLogs organization conversation limit = .ok rows := by
  have chosen : OneClock (store.logs.filter (Store.concerns organization conversation)).reverse :=
    fun first member second present =>
      oneClock first (List.mem_filter.mp (List.mem_reverse.mp member)).1 second
        (List.mem_filter.mp (List.mem_reverse.mp present)).1
  unfold Store.getLogs Store.sortLatestFirst
  rw [if_pos chosen.comparable]
  exact ⟨_, rfl⟩

/-- The document database and the store select the same log rows, in the same order, of every
conversation that has a name and of all conversations together. For an empty name the database
selects the rows of all conversations. -/
theorem log_selections_agree {store : Store} (rising : Rising store.logs) (now : Stamp)
    (organization : String) (limit : Int) (positive : 1 ≤ limit) :
    (∀ conversation, conversation ≠ some "" →
      Selects store now organization conversation conversation limit) ∧
    Selects store now organization (some "") none limit ∧
    (OneClock store.logs →
      ∀ conversation, ∃ rows, store.getLogs organization conversation limit = .ok rows) := by
  refine ⟨fun conversation named => ?_, ?_, fun oneClock conversation =>
    getLogs_succeeds oneClock organization conversation limit⟩
  · have heeds : LogEntry.heeded conversation = conversation := by
      cases conversation with
      | none => rfl
      | some name =>
          have present : name ≠ "" := fun empty => named (congrArg some empty)
          simp [LogEntry.heeded, present]
    have selects := selects_heeded rising now organization conversation positive
    rwa [heeds] at selects
  · exact selects_heeded rising now organization (some "") positive

/-! ### A conversation without a name -/

def logRow (id conversation : String) : LogEntry :=
  ⟨some id, "org_1", conversation, none, "flow-0001", .nodeStart, none, none, none, none, none, none,
    none, none, default⟩

/-- Two rows of one time and one conversation, and a row of a conversation without a name. -/
def talked : Store :=
  { Store.empty with
    logs := [logRow "65f0c1aa00000000000000a1" "conv_1", logRow "65f0c1aa00000000000000a2" "conv_1",
      logRow "65f0c1aa00000000000000a3" ""] }

theorem talked_rising : Rising talked.logs := ⟨by decide, by decide +kernel⟩

/-- To clear the conversation without a name clears all conversations at the database. -/
theorem unnamed_conversation_clears_all :
    Rising talked.logs ∧
    Comes (answer default (.deleteLogs "org_1" (some ""))) (ofLogs talked.logs)
      (.ok 3 : Except Fault Nat) [] ∧
    (talked.deleteLogs "org_1" (some "")).1 = 1 ∧
    ¬Selects talked default "org_1" (some "") (some "") 100 := by
  have clears : Comes (answer default (.deleteLogs "org_1" (some ""))) (ofLogs talked.logs)
      (.ok 3 : Except Fault Nat) [] :=
    ((@selects_heeded 100 talked talked_rising default "org_1" (some "") (by decide)).removes _
      _).mpr ⟨rfl, rfl⟩
  refine ⟨talked_rising, clears, rfl, fun selects => ?_⟩
  have count := Except.ok.inj ((selects.removes _ _).mp clears).1
  exact absurd count (by decide)

theorem log_selections_agree_talked :
    Comes (answer default (.getLogs "org_1" (some "conv_1") 1)) (ofLogs talked.logs)
      (.ok [logRow "65f0c1aa00000000000000a2" "conv_1"] : Except Fault (List LogEntry))
      (ofLogs talked.logs) ∧
    Comes (answer default (.deleteLogs "org_1" (some "conv_1"))) (ofLogs talked.logs)
      (.ok 2 : Except Fault Nat) (ofLogs [logRow "65f0c1aa00000000000000a3" ""]) := by
  obtain ⟨named, _⟩ := log_selections_agree talked_rising default "org_1" 1 (by decide)
  have selects := named (some "conv_1") (by decide)
  have listed : talked.getLogs "org_1" (some "conv_1") 1 =
      .ok [logRow "65f0c1aa00000000000000a2" "conv_1"] := by
    unfold Store.getLogs Store.sortLatestFirst
    rw [List.mergeSort_of_pairwise (by decide)]
    rfl
  exact ⟨(selects.lists _ listed _ _).mpr ⟨rfl, rfl⟩, (selects.removes _ _).mpr ⟨rfl, rfl⟩⟩

end Documents

end ChatFlow

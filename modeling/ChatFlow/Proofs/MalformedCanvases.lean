import ChatFlow.Proofs.CanvasTrips
import ChatFlow.Proofs.Transcript
/-
Saves of what a client has drawn. A node that is garbled, one whose data is there without being an
object, cannot be taken apart at all; every other list of objects is read, and either accepted or
rejected with a fault of the graph.
-/

set_option autoImplicit false

namespace ChatFlow

open Program

/-- The faults of nodes and edges that make no flow. -/
def Fault.isOfGraph : Fault → Bool
  | .invalidGraph _ | .graphProblem _ => true
  | _ => false

theorem Fault.isEngineFault_of_isOfGraph {fault : Fault} (ofGraph : fault.isOfGraph = true) :
    fault.isEngineFault = true := by
  cases fault <;> first | rfl | cases ofGraph

theorem Fault.statusCode_of_isOfGraph {fault : Fault} (ofGraph : fault.isOfGraph = true) :
    fault.statusCode = 400 := by
  cases fault <;> first | rfl | cases ofGraph

/-! ### Taking values apart -/

/-- A node that is not in the stored shape, with data that counts as present and is no object. -/
structure Garbled (node : Table Value) : Prop where
  unstored : (Table.has "node_id" node && Table.has "node_type" node) = false
  present : (Shape.member "data" node).isTruthy = true
  shapeless : ∀ data, Shape.member "data" node ≠ .obj data

namespace Shape

theorem storedNode_of_garbled {node : Table Value} (garbled : Garbled node) :
    storedNode (.obj node) = .error .notARecord := by
  have failed : dataMembers node = .error .notARecord := by
    unfold dataMembers
    split
    · next data same => exact absurd same (garbled.shapeless data)
    · exact if_pos garbled.present
  simp only [storedNode, membersOf, bind, Except.bind, garbled.unstored, failed]
  rfl

theorem storedNode_of_clear {node : Table Value} (clear : ¬Garbled node) :
    ∃ members, storedNode (.obj node) = .ok members := by
  cases stored : Table.has "node_id" node && Table.has "node_type" node with
  | true =>
      simp only [storedNode, membersOf, bind, Except.bind, stored]
      exact ⟨node, rfl⟩
  | false =>
      have read : ∃ data, dataMembers node = .ok data := by
        unfold dataMembers
        cases given : member "data" node with
        | obj data => exact ⟨data, rfl⟩
        | _ =>
            dsimp only
            split
            · next present =>
                have garbled : Garbled node := ⟨stored, given ▸ present, by simp [given]⟩
                exact absurd garbled clear
            · exact ⟨[], rfl⟩
      obtain ⟨data, read⟩ := read
      simp only [storedNode, membersOf, bind, Except.bind, stored, read]
      exact ⟨_, rfl⟩

theorem storedEdge_succeeds (edge : Table Value) :
    ∃ members, storedEdge (.obj edge) = .ok members := by
  unfold storedEdge
  simp only [membersOf, bind, Except.bind]
  generalize (if Table.has "source_node_id" edge && Table.has "target_node_id" edge then edge
    else _ : Table Value) = stored
  split
  · exact ⟨stored, rfl⟩
  · exact ⟨_, rfl⟩

end Shape

/-! ### The check of objects -/

/-- All members of a list are read, or the list fails as one of its members does. -/
theorem mapM_cases {α β : Type} (read : α → Except Fault β) (items : List α) :
    (∃ results, items.mapM read = .ok results ∧ ∀ item ∈ items, ∃ result, read item = .ok result) ∨
      ∃ item ∈ items, ∃ fault, read item = .error fault ∧ items.mapM read = .error fault := by
  induction items with
  | nil => exact Or.inl ⟨[], rfl, nofun⟩
  | cons first rest ih =>
      rw [List.mapM_cons]
      cases head : read first with
      | error fault => exact Or.inr ⟨first, List.mem_cons_self, fault, head, rfl⟩
      | ok result =>
          rcases ih with ⟨results, tail, each⟩ | ⟨item, member, fault, failed, tail⟩
          · rw [tail]
            exact Or.inl ⟨result :: results, rfl, List.forall_mem_cons.mpr ⟨⟨result, head⟩, each⟩⟩
          · rw [tail]
            exact Or.inr ⟨item, List.mem_cons_of_mem _ member, fault, failed, rfl⟩

namespace Graph

variable {nodes edges : List (Table Value)}

theorem storedNodes_of_garbled (garbled : ∃ node ∈ nodes, Garbled node) :
    (nodes.map Value.obj).mapM Shape.storedNode = .error .notARecord := by
  rcases mapM_cases Shape.storedNode (nodes.map .obj) with
    ⟨shapes, done, each⟩ | ⟨item, among, fault, failed, whole⟩
  · obtain ⟨node, among, wrong⟩ := garbled
    obtain ⟨members, stored⟩ := each (.obj node) (List.mem_map.mpr ⟨node, among, rfl⟩)
    cases (Shape.storedNode_of_garbled wrong).symm.trans stored
  · -- whichever node fails first, it is garbled and fails as all of these do
    obtain ⟨node, _, rfl⟩ := List.mem_map.mp among
    by_cases wrong : Garbled node
    · cases (Shape.storedNode_of_garbled wrong).symm.trans failed
      exact whole
    · obtain ⟨members, stored⟩ := Shape.storedNode_of_clear wrong
      cases stored.symm.trans failed

theorem storedNodes_of_clear (clear : ∀ node ∈ nodes, ¬Garbled node) :
    ∃ shapes, (nodes.map Value.obj).mapM Shape.storedNode = .ok shapes := by
  rcases mapM_cases Shape.storedNode (nodes.map .obj) with
    ⟨shapes, done, _⟩ | ⟨item, among, fault, failed, _⟩
  · exact ⟨shapes, done⟩
  · obtain ⟨node, listed, rfl⟩ := List.mem_map.mp among
    obtain ⟨members, stored⟩ := Shape.storedNode_of_clear (clear node listed)
    cases stored.symm.trans failed

theorem readEdge_fault {edge : Table Value} {fault : Fault}
    (failed : readEdge (.obj edge) = .error fault) : ∃ issues, fault = .invalidGraph issues := by
  obtain ⟨members, stored⟩ := Shape.storedEdge_succeeds edge
  unfold readEdge at failed
  rw [stored] at failed
  simp only [bind, Except.bind] at failed
  split at failed <;> cases failed
  exact ⟨_, rfl⟩

theorem ofValues_garbled (garbled : ∃ node ∈ nodes, Garbled node) (edges : List Value) :
    Graph.ofValues (nodes.map .obj) edges = .error .notARecord := by
  unfold ofValues readNodes
  rw [storedNodes_of_garbled garbled]
  rfl

/-- Objects none of which is a garbled node are accepted, or rejected for what is wrong with their
graph. -/
theorem ofValues_fault {fault : Fault} (clear : ∀ node ∈ nodes, ¬Garbled node)
    (failed : Graph.ofValues (nodes.map .obj) (edges.map .obj) = .error fault) :
    fault.isOfGraph = true := by
  -- the nodes fail to be taken apart or to be read, then the edges do, or else the graph is wrong
  rcases bind_error failed with unread | ⟨listed, _, failed⟩
  · rcases bind_error unread with unstored | ⟨shapes, _, rejected⟩
    · obtain ⟨shapes, stored⟩ := storedNodes_of_clear clear
      cases stored.symm.trans unstored
    · split at rejected <;> cases rejected
      rfl
  · rcases bind_error failed with unread | ⟨joined, _, failed⟩
    · rcases mapM_cases readEdge (edges.map .obj) with
        ⟨joined, read, _⟩ | ⟨item, among, other, rejected, whole⟩
      · cases read.symm.trans unread
      · obtain ⟨edge, _, rfl⟩ := List.mem_map.mp among
        cases whole.symm.trans unread
        obtain ⟨issues, rfl⟩ := readEdge_fault rejected
        rfl
    · dsimp only at failed
      split at failed <;> cases failed
      rfl

end Graph

/-! ### Saves -/

namespace Management

section

variable {α : Type} {store : Store} {program : Engine α} {fault : Fault}

theorem reporting_fails (operation : FlowOperation)
    (fails : Ensures (fun result later => later = store ∧ result = .error fault) program store) :
    Ensures (fun result later => later = store ∧ result =
        .error (if fault.isEngineFault then fault else .operationFailed operation))
      (reporting operation program) store := by
  refine fails.outcome.andThen fun result later known => ?_
  obtain ⟨rfl, rfl⟩ := known
  dsimp only
  split <;> exact Ensures.fail ⟨rfl, rfl⟩

theorem reporting_ran {operation : FlowOperation} {calls : List (Answered Call.Answer)}
    {result : Except Fault α} (ran : Transcript (reporting operation program) calls result) :
    ∃ inner, Transcript program calls inner := by
  rcases Transcript.of_bind ran with ⟨outcome, earlier, later, rfl, tried, rest⟩ | ⟨_, tried, _⟩
  · obtain ⟨inner, same, ran⟩ := Transcript.of_outcome tried
    cases same
    have silent : later = [] := by
      cases outcome with
      | ok value => exact (Transcript.of_done rest).1
      | error fault =>
          dsimp only at rest
          split at rest <;> exact (Transcript.of_fail rest).1
    rw [silent, List.append_nil]
    exact ⟨_, ran⟩
  · obtain ⟨inner, _, ran⟩ := Transcript.of_outcome tried
    exact ⟨inner, ran⟩

end

section

variable {store : Store} {organization id : String} {flow : Flow} {nodes edges : List Value}
  {editor : Option String} {fault : Fault}

theorem owned_ran {calls : List (Answered Call.Answer)} {result : Except Fault Flow}
    (ran : Transcript (owned organization id) calls result) :
    ∃ reply, calls = [⟨.store (.getOwnedFlow organization id), reply⟩] := by
  rcases Transcript.of_bind ran with ⟨found, earlier, later, rfl, asked, rest⟩ | ⟨_, asked, _⟩
  · have silent : later = [] := by
      cases found with
      | none => exact (Transcript.of_fail rest).1
      | some flow => exact (Transcript.of_done rest).1
    rw [silent, List.append_nil]
    exact ⟨_, Transcript.of_perform asked⟩
  · exact ⟨_, Transcript.of_perform asked⟩

/-- A save that the check does not let through comes to what the check comes to, and writes nothing. -/
theorem saveCanvas_refused (found : store.getOwnedFlow organization id = some flow)
    (refused : Graph.ofValues nodes edges = .error fault) :
    Ensures (fun result later => later = store ∧ result =
        .error (if fault.isEngineFault then fault else .operationFailed .saveCanvas))
      (saveCanvas organization id nodes edges editor) store := by
  refine reporting_fails .saveCanvas ((owned_succeeds found).andThen fun given later known => ?_)
  rw [refused]
  exact Ensures.fail ⟨known.1, rfl⟩

/-- Whatever the store answers, such a save asks it for the flow and for nothing else. -/
theorem saveCanvas_refused_calls {calls : List (Answered Call.Answer)} {result : Except Fault Flow}
    (refused : Graph.ofValues nodes edges = .error fault)
    (ran : Transcript (saveCanvas organization id nodes edges editor) calls result) :
    ∃ reply, calls = [⟨.store (.getOwnedFlow organization id), reply⟩] := by
  obtain ⟨inner, ran⟩ := reporting_ran ran
  rw [refused] at ran
  rcases Transcript.of_bind ran with ⟨flow, earlier, later, rfl, found, rest⟩ | ⟨_, found, _⟩
  · obtain ⟨rfl, _⟩ := Transcript.of_fail rest
    rw [List.append_nil]
    exact owned_ran found
  · exact owned_ran found

end

/-- A save has made the next version of a flow, or it was rejected for its graph and has left the store
as it was. -/
def SavedOrRejected (id : String) (flow : Flow) (store : Store) :
    Except Fault Flow → Store → Prop
  | .ok saved, later => later.getFlow id = some saved ∧ saved.version = flow.version + 1
  | .error fault, later => fault.isOfGraph = true ∧ fault.statusCode = 400 ∧ later = store

/-- Any objects may be given as nodes and edges. A save of them makes the next version of the flow, or
is rejected for its graph; only a garbled node makes the operation itself fail. Either way a save that
does not go through leaves the store as it was: before the check is passed it asks for nothing but the
flow, whatever it is answered. -/
theorem canvas_saved_or_rejected_unless_garbled (store : Store) (id : String) (flow : Flow)
    (nodes edges : List (Table Value)) (editor : Option String)
    (stands : store.getFlow id = some flow) :
    ((∀ node ∈ nodes, ¬Garbled node) → Ensures (SavedOrRejected id flow store)
      (saveCanvas flow.organization id (nodes.map .obj) (edges.map .obj) editor) store) ∧
    ((∃ node ∈ nodes, Garbled node) → Ensures
      (fun result later => later = store ∧ result = .error (.operationFailed .saveCanvas))
      (saveCanvas flow.organization id (nodes.map .obj) (edges.map .obj) editor) store) ∧
    ∀ (organization : String) (fault : Fault) (calls : List (Answered Call.Answer))
      (result : Except Fault Flow),
      Graph.ofValues (nodes.map .obj) (edges.map .obj) = .error fault →
      Transcript (saveCanvas organization id (nodes.map .obj) (edges.map .obj) editor) calls
        result → ∃ reply, calls = [⟨.store (.getOwnedFlow organization id), reply⟩] := by
  have found : store.getOwnedFlow flow.organization id = some flow :=
    Option.filter_eq_some_iff.mpr ⟨stands, decide_eq_true rfl⟩
  refine ⟨?_, ?_, ?_⟩
  · intro clear
    cases checked : Graph.ofValues (nodes.map .obj) (edges.map .obj) with
    | ok graph =>
        refine (saveCanvas_succeeds found checked).weaken ?_
        rintro (fault | saved) later known
        · exact known.elim
        · exact ⟨known.1, known.2.2.1⟩
    | error fault =>
        have ofGraph := Graph.ofValues_fault clear checked
        refine (saveCanvas_refused found checked).weaken ?_
        rintro result later ⟨rfl, rfl⟩
        rw [if_pos (Fault.isEngineFault_of_isOfGraph ofGraph)]
        exact ⟨ofGraph, Fault.statusCode_of_isOfGraph ofGraph, rfl⟩
  · intro garbled
    exact saveCanvas_refused found (Graph.ofValues_garbled garbled _)
  · intro organization fault calls result refused ran
    exact saveCanvas_refused_calls refused ran

def garbledStart : Table Value :=
  [("id", .str "start"), ("type", .str "start"), ("data", .str "x")]

/-- Replies of a store that finds no flow. -/
def flowless : (request : Call) → Except Fault request.Answer
  | .store (.getOwnedFlow _ _) => .ok none
  | _ => .error (.runtime "out of service")

/-- A start node without a type is rejected, and one with a text for its data makes the save fail, by
any store. -/
theorem canvas_saved_or_rejected_unless_garbled_start :
    ∃ flow, Workplace.drafted.scene.store.getFlow "flow-0001" = some flow ∧
      Ensures (SavedOrRejected "flow-0001" flow Workplace.drafted.scene.store)
        (saveCanvas flow.organization "flow-0001" [.obj [("id", .str "start")]] [] none)
        Workplace.drafted.scene.store ∧
      Ensures (fun result later => later = Workplace.drafted.scene.store ∧
          result = .error (.operationFailed .saveCanvas))
        (saveCanvas flow.organization "flow-0001" [.obj garbledStart] [] none)
        Workplace.drafted.scene.store ∧
      ∃ calls, Transcript (saveCanvas "org_2" "flow-0001" [.obj garbledStart] [] none) calls
          (.error (.flowNotFound "flow-0001")) ∧
        ∃ reply, calls = [⟨.store (.getOwnedFlow "org_2" "flow-0001"), reply⟩] := by
  have garbled : Garbled garbledStart := ⟨by decide, rfl, nofun⟩
  have clear : ∀ node ∈ [[("id", Value.str "start")]], ¬Garbled node := by
    intro node among same
    cases List.mem_singleton.mp among
    exact Bool.noConfusion same.present
  have row : (Workplace.drafted.scene.store.getFlow "flow-0001").isSome = true := by decide +kernel
  obtain ⟨flow, stands⟩ := Option.isSome_iff_exists.mp row
  have saves := canvas_saved_or_rejected_unless_garbled Workplace.drafted.scene.store "flow-0001"
    flow
  obtain ⟨_, fails, asks⟩ := saves [garbledStart] [] none stands
  have refused : Graph.ofValues [.obj garbledStart] [] = .error .notARecord := rfl
  have ran := consult_transcript flowless
    (saveCanvas "org_2" "flow-0001" [.obj garbledStart] [] none)
  exact ⟨flow, stands, (saves [[("id", .str "start")]] [] none stands).1 clear,
    fails ⟨_, List.mem_singleton_self _, garbled⟩, _, ran, asks _ _ _ _ refused ran⟩

/-- A garbled node is no reason to reject a save, but makes it fail. -/
theorem garbled_canvas_not_rejected :
    ∃ flow, Workplace.drafted.scene.store.getFlow "flow-0001" = some flow ∧
      ¬Ensures (SavedOrRejected "flow-0001" flow Workplace.drafted.scene.store)
        (saveCanvas flow.organization "flow-0001" [.obj garbledStart] [] none)
        Workplace.drafted.scene.store := by
  have row : (Workplace.drafted.scene.store.getFlow "flow-0001").isSome = true := by decide +kernel
  obtain ⟨flow, stands⟩ := Option.isSome_iff_exists.mp row
  refine ⟨flow, stands, fun ensures => ?_⟩
  have found : Workplace.drafted.scene.store.getOwnedFlow flow.organization "flow-0001" = some flow :=
    Option.filter_eq_some_iff.mpr ⟨stands, decide_eq_true rfl⟩
  have refused : Graph.ofValues [.obj garbledStart] [] = .error .notARecord := rfl
  obtain ⟨result, later, claimed, _, rfl⟩ :=
    (ensures.both (saveCanvas_refused found refused)).reached
  exact Bool.noConfusion claimed.1

end Management

end ChatFlow

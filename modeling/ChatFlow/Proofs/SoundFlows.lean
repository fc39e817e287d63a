import ChatFlow.Proofs.CanvasTrips
import ChatFlow.Proofs.GraphCheck
/-
Flows are sound at all times. Whatever the management of flows asks of the store is a graph that was
checked, a new flow's, or one that the store has told of; so every flow that stands in the store has a
well-formed graph, in the midst of the events of many workers and whichever calls the store refuses.
-/

set_option autoImplicit false

namespace ChatFlow

open Program EnginePast

/-! ### What an event may draw -/

/-- What an event may ask of the store that bears on graphs: to keep those that were checked, and
those of flows that the store has told of. -/
def Draws (past : EnginePast) : Call → Prop
  | .store (.createFlow flow) => Management.Founded past flow
  | .store (.updateFlow _ _ settings) => KeepsGraph settings
  | .store (.saveVersion version) => ∃ organization id flow editor now,
      Told past (.getOwnedFlow organization id) (some flow) ∧
        version = Management.snapshot id flow editor now
  | .store (.replaceGraph _ _ nodeValues edgeValues _) => ∃ nodes edges graph,
      Graph.ofValues nodes edges = .ok graph ∧ nodeValues = graph.nodeValues ∧
        edgeValues = graph.edgeValues
  | _ => True

theorem draws_of_sparesFlows (past : EnginePast) (request : Call)
    (spares : SparesFlows past request) : Draws past request := by
  cases request with
  | store request => cases request <;> trivial
  | _ => trivial

namespace Management

theorem shows_draws (organization id : String) : Shows Draws organization id :=
  ⟨fun _ => trivial, fun _ => trivial, fun _ _ => trivial⟩

theorem founds_draws : Founds Draws := fun _ _ founded => founded

theorem saves_draws (organization id : String) : Saves Draws organization id where
  files _ flow editor now told := ⟨organization, id, flow, editor, now, told, rfl⟩
  replaces _ _ nodes edges graph _ checked := ⟨nodes, edges, graph, checked, rfl, rfl⟩

theorem releases_draws (hasEngine : Bool) (organization id : String) :
    Releases Draws hasEngine organization id := by
  intro past flow reason _
  unfold cancelSessions
  split
  · exact Keeps.discarded
      ((Event.cancelFlowSessions_sparesFlows id reason past).loosen draws_of_sparesFlows)
  · exact Follows.done trivial

end Management

open Management in
/-- All events draw as they may, but for those that put a flow into the store as it is. -/
theorem Operation.program_draws (settings : EngineSettings) {operation : Operation}
    (manages : operation.Manages) : Keeps Draws (operation.program settings) [] := by
  have spares {program : Engine EventReport} (spares : Keeps SparesFlows program []) :
      Keeps Draws (reporting program) [] := reporting_keeps (spares.loosen draws_of_sparesFlows)
  cases operation with
  | inbound message => exact spares (Event.inbound_sparesFlows message [])
  | start organization request startedBy =>
      exact spares (Event.start_sparesFlows organization request startedBy [])
  | resume conversation session node =>
      exact spares (Event.resume_sparesFlows conversation session node [])
  | cancel organization conversation reason =>
      exact spares (Event.cancel_sparesFlows organization conversation reason [])
  | cancelFlow flow reason =>
      exact silent_keeps
        ((Event.cancelFlowSessions_sparesFlows flow reason []).loosen draws_of_sparesFlows)
  | poll => exact silent_keeps ((Timer.poll_sparesFlows []).loosen draws_of_sparesFlows)
  | install flow => exact manages.elim
  | create organization editor request =>
      exact silent_keeps
        (create_keeps (fun _ => trivial) founds_draws organization editor request [])
  | update hasEngine organization id request =>
      exact silent_keeps ((shows_draws organization id).update_keeps
        (releases_draws hasEngine organization id) request (fun _ => request.settings_keepsGraph) [])
  | toggle hasEngine organization id =>
      exact silent_keeps ((shows_draws organization id).toggle_keeps
        (releases_draws hasEngine organization id) (fun _ _ => ⟨rfl, rfl, rfl⟩) [])
  | delete hasEngine organization id =>
      exact silent_keeps ((shows_draws organization id).delete_keeps
        (releases_draws hasEngine organization id) (fun _ => trivial) [])
  | saveCanvas organization id nodes edges editor =>
      exact silent_keeps ((shows_draws organization id).saveCanvas_keeps
        (saves_draws organization id) nodes edges editor [])
  | duplicate organization id editor =>
      exact silent_keeps ((shows_draws organization id).duplicate_keeps founds_draws editor [])
  | restore organization id number editor =>
      exact silent_keeps ((shows_draws organization id).restore_keeps
        (saves_draws organization id) number editor [])

/-! ### One call -/

/-- All flows of an organization that the store has told of have settled graphs. -/
structure EnginePast.Settled (past : EnginePast) : Prop where
  flows : ∀ {organization id flow}, Told past (.getOwnedFlow organization id) (some flow) →
    flow.graph.Settled

theorem EnginePast.Settled.nothing : Settled [] := ⟨fun told => nomatch told⟩

section

variable {past : EnginePast} {scene later : Scene} {request : Call}
  {reply : Except Fault request.Answer}

/-- A new flow is drawn soundly: its graph is a start node, or was told of. -/
theorem Management.Founded.settled {flow : Flow} (founded : Founded past flow)
    (settled : past.Settled) : flow.graph.Settled := by
  cases founded with
  | asked request organization editor now => exact request.flow_settled organization editor now
  | copied told first nodes edges =>
      have same := settled.flows told
      rwa [Flow.graph, ← nodes, ← edges] at same

theorem Store.Drawn.answer (drawn : scene.store.Drawn) (settled : past.Settled)
    (draws : Draws past request) (answers : scene.Answers request reply later) :
    later.store.Drawn := by
  cases request with
  | store asked =>
      obtain ⟨stamp, rfl, rfl⟩ := answers
      cases asked with
      | createFlow flow => exact drawn.createFlow (draws.settled settled)
      | updateFlow organization id settings => exact drawn.updateFlow draws stamp
      | deleteFlow organization id => exact drawn.deleteFlow organization id
      | saveVersion version =>
          obtain ⟨organization, id, flow, editor, now, told, rfl⟩ := draws
          exact drawn.saveVersion (settled.flows told) ⟨rfl, rfl⟩
      | replaceGraph id expected nodeValues edgeValues editor =>
          obtain ⟨nodes, edges, graph, checked, rfl, rfl⟩ := draws
          exact drawn.replaceGraph (Graph.plain_settled checked) expected editor stamp
      | _ => exact drawn.sameFlows (Store.answer_sameFlows rfl stamp scene.store)
  | clock => exact answers.2 ▸ drawn
  | complete | http | history | deliver | sleep =>
      have same : later = scene := answers
      exact same ▸ drawn

theorem EnginePast.Settled.answer (settled : past.Settled) (drawn : scene.store.Drawn)
    (answers : scene.Answers request reply later) : Settled (⟨request, reply⟩ :: past) := by
  constructor
  intro organization id flow told
  rcases Holds.told_cons told with head | tail
  · cases head
    obtain ⟨stamp, found, rfl⟩ := answers
    exact drawn.owned (Except.ok.inj found).symm
  · exact settled.flows tail

theorem EnginePast.Settled.refuse {asked : StoreCall} {fault : Fault} (settled : past.Settled) :
    Settled (⟨.store asked, .error fault⟩ :: past) := by
  constructor
  intro organization id flow told
  rcases Holds.told_cons told with head | tail
  · cases head
  · exact settled.flows tail

end

/-! ### Places -/

namespace Workplace

variable {ι : Type} {may : Operation → Prop} {before after place : Workplace ι} {index : ι}

/-- The workplaces that steps lead to from an empty store while only events of some kinds are begun,
by any worker and whatever the others are about. -/
inductive ReachedBy (may : Operation → Prop) : Workplace ι → Prop where
  | start (time : Stamp) : ReachedBy may ⟨⟨Store.empty, time⟩, fun _ => Worker.fresh⟩
  | begun {before after : Workplace ι} {index : ι} {settings : EngineSettings}
      {operation : Operation} (reached : ReachedBy may before)
      (begins : Begun before after index settings operation) (allowed : may operation) :
      ReachedBy may after
  | went {before after : Workplace ι} {index : ι} (reached : ReachedBy may before)
      (goes : GoesOn index (fun _ => True) before after) : ReachedBy may after

/-- The graphs in the store are settled, and so are those that each worker was told of; and each
worker draws as it may. -/
structure Drawn (place : Workplace ι) : Prop where
  store : place.scene.store.Drawn
  settled : ∀ index, EnginePast.Settled (place.worker index).past
  draws : ∀ index, Keeps Draws (place.worker index).rest (place.worker index).past

theorem Turn.settled {worker : Worker}
    (known : ∀ other, EnginePast.Settled (before.worker other).past)
    (turn : Turn before after index worker) (own : EnginePast.Settled worker.past) (other : ι) :
    EnginePast.Settled (after.worker other).past := by
  by_cases same : other = index
  · rw [same, turn.1]
    exact own
  · rw [turn.2 other same]
    exact known other

theorem Drawn.begun {settings : EngineSettings} {operation : Operation} (drawn : Drawn before)
    (manages : operation.Manages) (begins : Begun before after index settings operation) :
    Drawn after where
  store := begins.same ▸ drawn.store
  settled := begins.turn.settled drawn.settled .nothing
  draws := keeps_turn drawn.draws begins.turn (operation.program_draws settings manages)

theorem Drawn.went {refusable : StoreCall → Prop} (drawn : Drawn before)
    (goes : GoesOn index refusable before after) : Drawn after := by
  cases goes with
  | tick later => exact ⟨drawn.store, drawn.settled, drawn.draws⟩
  | answer calls answers turn =>
      obtain ⟨draws, rest⟩ := keeps_at_call drawn.draws calls
      have settled := drawn.settled index
      rw [calls] at settled
      exact ⟨drawn.store.answer settled draws answers,
        turn.settled drawn.settled (settled.answer drawn.store answers),
        keeps_turn drawn.draws turn (rest _)⟩
  | refuse allowed calls same turn =>
      obtain ⟨_, rest⟩ := keeps_at_call drawn.draws calls
      have settled := drawn.settled index
      rw [calls] at settled
      exact ⟨same ▸ drawn.store, turn.settled drawn.settled settled.refuse,
        keeps_turn drawn.draws turn (rest _)⟩

theorem ReachedBy.drawn (reached : ReachedBy Operation.Manages place) : Drawn place := by
  induction reached with
  | start time => exact ⟨Store.drawn_empty, fun _ => .nothing, fun _ => Follows.done trivial⟩
  | begun reached begins allowed drawn => exact drawn.begun allowed begins
  | went reached goes drawn => exact drawn.went goes

/-- The check accepts exactly the well-formed graphs among those that can be read, and puts out what
was read of each node and edge, in the order given; any other it rejects with a problem of the graph.
So each flow in the store has a well-formed graph at all times, as long as flows come from the
management alone. -/
theorem accepted_graphs_wellFormed :
    (∀ (nodes edges : List Value) (listed : List Node) (joined : List Edge),
      List.Forall₂ Node.Parses nodes listed → List.Forall₂ Edge.Parses edges joined →
        ((∃ graph, Graph.ofValues nodes edges = .ok graph) ↔
          Graph.WellFormed ⟨listed, joined⟩) ∧
        (¬Graph.WellFormed ⟨listed, joined⟩ →
          ∃ problem, Graph.ofValues nodes edges = .error (.graphProblem problem)) ∧
        ∀ graph, Graph.ofValues nodes edges = .ok graph → graph.Dumps nodes edges) ∧
    ∀ (place : Workplace ι), ReachedBy Operation.Manages place → ∀ (id : String) (flow : Flow),
      place.scene.store.getFlow id = some flow → flow.graph.WellFormed := by
  refine ⟨fun nodes edges listed joined readsNodes readsEdges => ?_,
    fun place reached id flow stands => ?_⟩
  · have comes := Graph.ofValues_of_parses readsNodes readsEdges
    rw [← Graph.problem?_eq_none]
    refine ⟨?_, ?_, fun graph checked => Graph.dumps_of_ofValues checked⟩
    all_goals
      rw [comes]
      cases (Graph.mk listed joined).problem? <;> simp
  · exact Graph.problem?_eq_none.mp (reached.drawn.store.flows stands).sound

/-! ### A save that the store refuses -/

theorem ReachedBy.alone (reached : ReachedBy may before)
    (alone : Alone index (fun _ => True) before after) : ReachedBy may after := by
  induction alone with
  | refl => exact reached
  | tail _ goes ih => exact ih.went goes

/-- The graph was filed, and its replacement is refused. -/
def undrawn : Workplace Unit :=
  (drafted.beginning (.saveCanvas "org_1" "flow-0001" [namedStart] [] none)).play sampleSettings
    [.go (), .go (), .go (), .refuse () (.connectionLost "lost")]

theorem undrawn_reached : ReachedBy Operation.Manages undrawn := by
  have creating := beginning_begun (emptyPlace Unit) (by decide) (.create "org_1" none leadRequest)
  have drafting : ReachedBy Operation.Manages drafting :=
    ((ReachedBy.start default).begun creating trivial).alone
      (alone_play sampleSettings _ () _ 1)
  have drafted : ReachedBy Operation.Manages drafted :=
    drafting.alone (alone_play sampleSettings _ () _ 1)
  have saving := beginning_begun Workplace.drafted (by decide +kernel)
    (.saveCanvas "org_1" "flow-0001" [namedStart] [] none)
  have cues : ∀ cue ∈ [Cue.go (), .go (), .go (), .refuse () (.connectionLost "lost")],
      cue = .go () ∨ ∃ fault, cue = .refuse () fault := by simp
  exact (drafted.begun saving trivial).alone (alone_cues sampleSettings _ cues)

/-- An edge that leads back to the start. -/
def loopingEdge : Value :=
  .obj [("edge_id", .str "e1"), ("source_node_id", .str "start"), ("target_node_id", .str "start")]

theorem accepted_graphs_wellFormed_undrawn :
    (∃ graph, Graph.ofValues [namedStart] [] = .ok graph ∧ graph.Dumps [namedStart] []) ∧
    (∃ problem, Graph.ofValues [namedStart] [loopingEdge] = .error (.graphProblem problem)) ∧
    ∃ flow, undrawn.scene.store.getFlow "flow-0001" = some flow ∧ flow.version = 1 ∧
      flow.graph.WellFormed := by
  have named : List.Forall₂ Node.Parses [namedStart]
      [⟨Node.startId, some "Oi", Position.origin, .start ⟨[]⟩, []⟩] :=
    .cons ⟨_, rfl, rfl⟩ .nil
  have looping : List.Forall₂ Edge.Parses [loopingEdge]
      [⟨"e1", "start", "start", none, none, none, "default", []⟩] :=
    .cons ⟨_, rfl, rfl⟩ .nil
  obtain ⟨accepts, _, dumps⟩ := (@accepted_graphs_wellFormed Unit).1 _ _ _ _ named .nil
  obtain ⟨_, rejects, _⟩ := (@accepted_graphs_wellFormed Unit).1 _ _ _ _ named looping
  obtain ⟨graph, checked⟩ := accepts.mpr (Graph.problem?_eq_none.mp rfl)
  have row : (undrawn.scene.store.getFlow "flow-0001").any (fun flow =>
      flow.version = 1) = true := by decide +kernel
  obtain ⟨flow, stands, first⟩ := (Option.any_eq_true _ _).mp row
  refine ⟨⟨graph, checked, dumps graph checked⟩, rejects fun formed => ?_, flow, stands,
    of_decide_eq_true first, accepted_graphs_wellFormed.2 undrawn undrawn_reached _ _ stands⟩
  exact (formed.joins _ List.mem_cons_self).onward rfl

end Workplace

end ChatFlow

import ChatFlow.Proofs.ClosedFlows
import ChatFlow.Proofs.GraphHistory
import ChatFlow.Proofs.TrailedEvents
/-
How sessions come to be lost. No event takes a session off a flow that has passed the check; so where
all flows have, an event finds a session at no node only if a canvas was saved while the session
waited.
-/

set_option autoImplicit false

namespace ChatFlow

open Program EnginePast

/-! ### What an event leaves of graphs -/

namespace Store

variable {store middle later : Store} {saved : Option String}

/-- Flows keep their graphs, but for one that may have been saved, or are deleted. -/
structure Spares (saved : Option String) (store later : Store) : Prop where
  numbered : ∀ {id}, store.Numbered id → later.Numbered id
  stood : ∀ {id flow}, store.Numbered id → later.getFlow id = some flow →
    ∃ old, store.getFlow id = some old ∧ (saved = some id ∨ old.SameGraph flow)

theorem Spares.trans (lower : store.Spares saved middle) (upper : middle.Spares saved later) :
    store.Spares saved later where
  numbered known := upper.numbered (lower.numbered known)
  stood known stands := by
    obtain ⟨between, stood, kept⟩ := upper.stood (lower.numbered known) stands
    obtain ⟨old, first, kept'⟩ := lower.stood known stood
    refine ⟨old, first, ?_⟩
    rcases kept with own | same
    · exact Or.inl own
    · exact kept'.imp_right fun same' => same'.trans same

theorem numbered_of_le {id : String} (counts : store.counts.flows ≤ later.counts.flows)
    (numbered : store.Numbered id) : later.Numbered id := by
  obtain ⟨number, bound, same⟩ := numbered
  exact ⟨number, Nat.le_trans bound counts, same⟩

theorem spares_of_same (flows : ∀ id, later.getFlow id = store.getFlow id)
    (counts : later.counts.flows = store.counts.flows) : store.Spares saved later where
  numbered := numbered_of_le (Nat.le_of_eq counts.symm)
  stood {id flow} _ stands := ⟨flow, (flows id).symm.trans stands, Or.inr (.refl flow)⟩

theorem Rewrites.spares {id : String} {flow changed : Flow}
    (rewrites : store.Rewrites id flow changed later)
    (kept : saved = some id ∨ flow.SameGraph changed) : store.Spares saved later where
  numbered := numbered_of_le (Nat.le_of_eq rewrites.flowCount.symm)
  stood {other row} _ stands := by
    rw [rewrites.rows] at stands
    split at stands
    · next same =>
        cases same
        cases stands
        exact ⟨flow, rewrites.found, kept⟩
    · exact ⟨row, stands, Or.inr (.refl row)⟩

/-- A call that an event may make spares all graphs, but for the one that the event saves. -/
theorem spares_answer {operation : Operation} {past : EnginePast} {request : StoreCall}
    (edits : operation.Edits past (.store request)) (stamp : Stamp) :
    store.Spares operation.saves? (store.answer stamp request).2 := by
  have still : store.Spares operation.saves? store := spares_of_same (fun _ => rfl) rfl
  cases writes : request.writesFlows with
  | false =>
      have same := answer_sameFlows writes stamp store
      exact spares_of_same same.getFlow same.flowCount
  | true =>
      cases request with
      | createFlow flow =>
          refine ⟨numbered_of_le (Nat.le_succ _), fun {id row} known stands => ?_⟩
          have stands := (getFlow_createFlow flow store id).symm.trans stands
          rw [if_neg known.ne_next] at stands
          exact ⟨row, stands, Or.inr (.refl row)⟩
      | updateFlow organization id settings =>
          refine changing_snd (Spares _ store) still fun found later done => ?_
          rcases updateFlow_rewrites done with ⟨_, _, rfl⟩ | ⟨_, _, _, _, takes, rewrites⟩
          · exact still
          · exact rewrites.spares (Or.inr (takes.sameGraph (edits.put stamp)))
      | replaceGraph id expected nodes edges editor =>
          refine changing_snd (Spares _ store) still fun found later done => ?_
          rcases replaceGraph_rewrites done with ⟨_, _, rfl⟩ | ⟨_, _, _, _, _, rewrites⟩
          · exact still
          · exact rewrites.spares (Or.inl edits.1)
      | deleteFlow organization id =>
          refine ⟨numbered_of_le (Nat.le_of_eq ?_), fun {other row} _ stands => ?_⟩
          · exact congrArg RowCounts.flows (deleteFlow_counts organization id store).symm
          · have stands := (getFlow_deleteFlow organization id other store).symm.trans stands
            split at stands
            · cases stands
            · exact ⟨row, stands, Or.inr (.refl row)⟩
      | saveVersion version =>
          exact spares_of_same (getFlow_saveVersion version store)
            (saveVersion_flowCount version store)
      | _ => cases writes

end Store

/-- An event leaves all flows with their graphs, but for one that it saves. -/
theorem Operation.program_spares {settings : EngineSettings} {store : Store}
    (operation : Operation) :
    Ensures (fun _ later => store.Spares operation.saves? later) (operation.program settings)
      store := by
  have edits : Keeps operation.Edits (operation.program settings) [] :=
    (operation.program_saves settings).keeps.loosen fun _ _ allowed => allowed.1
  refine Ensures.of_keeps edits (Store.spares_of_same (fun _ => rfl) rfl)
    fun past middle time request reply later known edits answers => ?_
  rcases answers.effect with still | ⟨asked, stamp, rfl, changed⟩
  · exact still ▸ known
  · rw [changed]
    exact known.trans (Store.spares_answer edits stamp)

/-! ### Events one after the other -/

theorem Session.HasShape.waits {session : Session} {jobs : Table Delay} {shape : SessionShape}
    (has : session.HasShape jobs shape) (active : session.isActive = true) :
    session.status = .awaitingInput ∨ session.status = .awaitingTimer := by
  cases shape with
  | awaitingInput => exact Or.inl has.2.1
  | awaitingTimer => exact Or.inr has.2.1
  | ended => exact absurd (active.symm.trans has.1) (by decide)

theorem Flow.SameGraph.node? {first second : Flow} (same : first.SameGraph second) (id : String) :
    second.node? id = first.node? id := by
  unfold Flow.node?
  rw [same.nodes]

namespace Workplace

variable {ι : Type} {place before after first second : Workplace ι} {index : ι}
  {settings : EngineSettings} {operation : Operation} {result : Except Fault (Option EventReport)}
  {may : Operation → Prop} {id : String} {session : Session}

/-- The flow of a session has been given out. -/
theorem Serial.numbered (serial : Serial may place)
    (stands : place.scene.store.getSession id = some session) :
    place.scene.store.Numbered session.flow := by
  induction serial generalizing id session with
  | start time => cases stands
  | @event before after index settings operation result serial allowed performs ih =>
      have spares := performs.ensured operation.program_spares
      apply spares.numbered
      rcases performs.carries serial with advances | quiets
      · rcases advances.homes stands with ⟨old, stood, same⟩ | found
        · exact same ▸ ih stood
        · obtain ⟨flow, found⟩ := Option.isSome_iff_exists.mp found
          exact serial.reached.enrolled.numbered found
      · obtain ⟨old, stood, same⟩ := quiets.homes stands
        exact same ▸ ih stood

theorem Serial.drawn (serial : Serial Operation.Manages place) : place.scene.store.Drawn :=
  serial.keeps Store.drawn_empty fun _ operation _ _ manages _ _ drawn =>
    operation.program_drawn manages drawn

/-- While a session waited at a node, a canvas of its flow was saved that has no such node. -/
structure Parted (place : Workplace ι) (id : String) (session : Session)
    (first second : Workplace ι) : Prop where
  serial : Serial Operation.Manages first
  saves : ∃ index settings operation result, operation.saves? = some session.flow ∧
    Performs first second index settings operation result
  onward : Steps second place
  waits : session.status = .awaitingInput ∨ session.status = .awaitingTimer
  stood : first.scene.store.getSession id = some session
  stands : second.scene.store.getSession id = some session
  inside : first.scene.store.Inside session
  beside : second.scene.store.Beside session

/-- A session stands at a node of its flow, unless that is gone or a canvas has parted them. -/
def Placed (place : Workplace ι) (id : String) (session : Session) : Prop :=
  place.scene.store.Inside session ∨ place.scene.store.getFlow session.flow = none ∨
    ∃ first second, Parted place id session first second

/-- A session that stands as it stood is still placed, whatever has become of its flow. -/
theorem Placed.carried (placed : Placed before id session)
    (serial : Serial Operation.Manages before)
    (performs : Performs before after index settings operation result)
    (stood : before.scene.store.getSession id = some session)
    (stands : after.scene.store.getSession id = some session) (active : session.isActive = true) :
    Placed after id session := by
  cases found : after.scene.store.getFlow session.flow with
  | none => exact Or.inr (Or.inl found)
  | some flow =>
      have spares := performs.ensured operation.program_spares
      obtain ⟨old, stored, kept⟩ := spares.stood (serial.numbered stood) found
      rcases placed with ⟨other, stored', node⟩ | gone | ⟨first, second, parted⟩
      · cases stored.symm.trans stored'
        cases here : flow.node? session.currentNode with
        | some node => exact Or.inl ⟨flow, found, by rw [here]; rfl⟩
        | none =>
            rcases kept with saves | same
            · obtain ⟨shape, has⟩ := serial.orderly.shaped stood
              refine Or.inr (Or.inr ⟨before, after, serial, ?_, .refl, has.waits active, stood, stands,
                ⟨old, stored, node⟩, flow, found, here⟩)
              exact ⟨index, settings, operation, result, saves, performs⟩
            · rw [same.node?] at here
              rw [here] at node
              cases node
      · cases gone.symm.trans stored
      · exact Or.inr (Or.inr ⟨first, second,
          { parted with onward := parted.onward.trans performs.steps }⟩)

theorem Serial.placed (serial : Serial Operation.Manages place)
    (stands : place.scene.store.getSession id = some session) (active : session.isActive = true) :
    Placed place id session := by
  induction serial generalizing id session with
  | start time => cases stands
  | @event before after index settings operation result serial allowed performs ih =>
      rcases performs.carries serial with advances | quiets
      · rcases advances.inside serial.drawn.isClosed stands active with ⟨flow, stored, node⟩ | stood
        · exact Or.inl ⟨flow, (advances.flows.getFlow _).trans stored, node⟩
        · exact (ih stood active).carried serial performs stood stands active
      · have stood := quiets.active stands active
        exact (ih stood active).carried serial performs stood stands active

/-- An event that loses a session has found it parted from its flow. -/
theorem Performs.parted (performs : Performs before after index settings operation result)
    (serial : Serial Operation.Manages before)
    (stands : after.scene.store.getSession id = some session) (lost : session.IsLost)
    (new : before.scene.store.getSession id ≠ some session) :
    ∃ old first second, before.scene.store.getSession id = some old ∧ old.isActive = true ∧
      Parted before id old first second := by
  rcases performs.carries serial with advances | quiets
  · rcases advances.lost serial.drawn.isClosed stands lost with same | ⟨old, stood, active, beside⟩
    · exact absurd same new
    · obtain ⟨flow, stored, off⟩ := beside
      rcases serial.placed stood active with ⟨other, stored', node⟩ | gone | ⟨first, second, parted⟩
      · cases stored.symm.trans stored'
        rw [off] at node
        cases node
      · cases gone.symm.trans stored
      · exact ⟨old, first, second, stood, active, parted⟩
  · exact absurd (quiets.lost stands lost) new

open Event in
/-- A checked graph is never walked off. Whatever others do meanwhile and whatever the contact and the
services reply, an event that starts a session on a checked flow, or resumes one at a node of it,
writes and reports that session at nodes of the flow only, and never ends it because it came to none.
So where all flows have been checked, and events follow one upon the other, a session is ended for that
reason only after a canvas was saved while it waited, which had no node where the session stood. -/
theorem checked_flows_are_not_left :
    (∀ (place : Workplace ι) (index : ι) (settings : EngineSettings) (stimulus : Stimulus)
      (calls : List (Answered Call.Answer)) (outcome : Except Fault EventReport), Reached place →
      calls <:+: (place.worker index).past.reverse →
      Transcript (stimulus.program settings) calls outcome →
      ∃ runs : List (Ran settings), Comprises calls outcome runs ∧
        (∀ run ∈ runs, run.OpenedBy stimulus calls ∧ ∀ flow, run.Has flow → flow.IsChecked →
          (run.isResume = true → (flow.node? run.session.currentNode).isSome = true) →
          run.StaysOn flow) ∧
        ((∀ run ∈ runs, ∃ flow, run.Has flow ∧ flow.IsChecked ∧
          (run.isResume = true → (flow.node? run.session.currentNode).isSome = true)) →
          ∀ report, outcome = .ok report → ¬report.IsLost)) ∧
    ∀ (before after : Workplace ι) (index : ι) (settings : EngineSettings) (operation : Operation)
      (result : Except Fault (Option EventReport)), Serial Operation.Manages before →
      Performs before after index settings operation result →
      ∀ id row, after.scene.store.getSession id = some row → row.IsLost →
        before.scene.store.getSession id ≠ some row →
        ∃ old first second, before.scene.store.getSession id = some old ∧ old.isActive = true ∧
          Parted before id old first second := by
  refine ⟨fun place index settings stimulus calls outcome reached within ran => ?_,
    fun before after index settings operation result serial performs id row stands lost new =>
      performs.parted serial stands lost new⟩
  have truthful : Truthful calls :=
    (reached.truthful index).of_subset fun _ member => List.mem_reverse.mp (within.subset member)
  obtain ⟨runs, comprises, opened⟩ := comprised ran
  have stays : ∀ run ∈ runs, ∀ flow, run.Has flow → flow.IsChecked →
      (run.isResume = true → (flow.node? run.session.currentNode).isSome = true) →
      run.StaysOn flow := by
    intro run member flow has checked resumed
    have told := truthful.of_subset (comprises.within run member).subset
    refine Ran.staysOn told has checked.isClosed ?_
    cases resumes : run.isResume with
    | true => exact resumed resumes
    | false =>
        have opens := opened run member
        unfold Ran.OpenedBy at opens
        rw [resumes] at opens
        rw [(opens.begins truthful).1]
        exact checked.isClosed.start
  refine ⟨runs, comprises, fun run member => ⟨opened run member, stays run member⟩,
    fun checked report reported lost => ?_⟩
  obtain ⟨run, member, result⟩ := comprises.reports report reported (by rw [lost.1]; rfl)
  obtain ⟨flow, has, passed, resumed⟩ := checked run member
  exact ((stays run member flow has passed resumed).reports report result).2 lost

/-! ### A question that is taken off its canvas -/

def askingGraph : Graph := (shortFlow "org_1" question).graph

/-- A flow with a question has been drawn, and may be started. -/
def released : Workplace Unit :=
  (drafted.carryingOut (.saveCanvas "org_1" "flow-0001" askingGraph.nodeValues askingGraph.edgeValues
    none) 4).carryingOut (.toggle false "org_1" "flow-0001") 2

/-- The contact has been asked. -/
def asked : Workplace Unit := released.carryingOut manualStart.operation 10

/-- The contact has replied to the question. -/
def heard : Workplace Unit := asked.carryingOut (Stimulus.inbound contactReply).operation 7

/-- The question has been taken off the canvas while the contact was asked. -/
def emptied : Workplace Unit :=
  asked.carryingOut (.saveCanvas "org_1" "flow-0001" [namedStart] [] none) 4

/-- The contact has replied to what is not asked any more. -/
def misled : Workplace Unit := emptied.carryingOut (Stimulus.inbound contactReply).operation 7

theorem asked_serial : Serial Operation.Manages asked := by
  have drafted : Serial Operation.Manages drafted :=
    Serial.carryingOut (.start default) (.create "org_1" none leadRequest) trivial 2 (by decide)
      (by decide +kernel)
  have drawn := drafted.carryingOut (.saveCanvas "org_1" "flow-0001" askingGraph.nodeValues
    askingGraph.edgeValues none) trivial 4 (by decide +kernel) (by decide +kernel)
  have released : Serial Operation.Manages released :=
    drawn.carryingOut (.toggle false "org_1" "flow-0001") trivial 2 (by decide +kernel)
      (by decide +kernel)
  exact released.carryingOut manualStart.operation trivial 10 (by decide +kernel) (by decide +kernel)

/-- What the reply is handled with: the session waits at the question, and its flow is as it was. -/
def heardOf : Answered Call.Answer → Bool
  | ⟨.store (.createSession _), _⟩ => false
  | ⟨.store (.activeSession _), .ok (some session)⟩ => session.currentNode = "node"
  | ⟨.store (.getFlow _), .ok found⟩ =>
      found.map Flow.graph = (asked.scene.store.getFlow "flow-0001").map Flow.graph
  | _ => true

/-- The flow that is read when the reply comes has been checked, and has the question. -/
theorem heard_flow {flow : Flow} (told : heardOf ⟨.store (.getFlow id), .ok (some flow)⟩ = true) :
    flow.IsChecked ∧ (flow.node? "node").isSome = true := by
  have same : some flow.graph = (asked.scene.store.getFlow "flow-0001").map Flow.graph := by
    simp only [heardOf, decide_eq_true_eq] at told
    exact told
  obtain ⟨stored, stands, alike⟩ := Option.map_eq_some_iff.mp same.symm
  refine ⟨Flow.isChecked_of_settled (alike ▸ asked_serial.drawn.flows stands), ?_⟩
  have names : ((asked.scene.store.getFlow "flow-0001").map Flow.graph).any
      (fun graph => (graph.nodes.map Node.id).contains "node") = true := by decide +kernel
  rw [← same] at names
  exact Flow.node?_isSome (List.contains_iff_mem.mp names)

/-- A message has a session created, or is a reply to the one that stands. -/
theorem opens_of_message {message : InboundMessage} {calls : List (Answered Call.Answer)}
    {text : Option String} {isResume : Bool} {given : Option Flow}
    (opens : (Stimulus.inbound message).Opens calls session text isResume given) :
    (∃ fresh, ⟨.store (.createSession fresh), .ok session⟩ ∈ calls) ∨
      isResume = true ∧ given = none ∧
        ⟨.store (.activeSession message.conversation), .ok (some session)⟩ ∈ calls := by
  cases opens with
  | created new stored => exact Or.inl ⟨_, stored⟩
  | replied stood waits => exact Or.inr ⟨rfl, rfl, stood⟩

open Event in
/-- When the reply comes, the session is resumed at the question. -/
theorem heard_run {calls : List (Answered Call.Answer)} (told : ∀ entry ∈ calls, heardOf entry = true)
    {run : Ran sampleSettings} (opened : run.OpenedBy (.inbound contactReply) calls)
    (within : run.calls <:+: calls) {report : EventReport} (result : run.result = .ok report) :
    ∃ flow, run.isResume = true ∧ run.Has flow ∧ flow.IsChecked ∧
      (flow.node? run.session.currentNode).isSome = true := by
  rcases opens_of_message opened with ⟨_, stored⟩ | ⟨resumes, given, stood⟩
  · cases told _ stored
  · have here : run.session.currentNode = "node" := of_decide_eq_true (told _ stood)
    rcases run.sets_out with ⟨⟨journey⟩⟩ | astray
    · have has := journey.has
      rcases has with known | ⟨_, read⟩
      · cases given.symm.trans known
      · obtain ⟨checked, node⟩ := heard_flow (told _ (within.subset read))
        exact ⟨journey.flow, resumes, Or.inr ⟨given, read⟩, checked, here ▸ node⟩
    · cases astray with
      | unread calls failed => cases failed.symm.trans result
      | unclocked failed refused reading => cases failed.symm.trans result
      | gone calls fetched =>
          rw [given] at fetched
          cases fetched
          have read : ⟨.store (.getFlow run.session.flow), .ok none⟩ ∈ run.calls := by
            rw [calls]
            exact List.mem_append_left _ (List.mem_singleton_self _)
          have absent := told _ (within.subset read)
          simp only [heardOf, decide_eq_true_eq] at absent
          have present : ((asked.scene.store.getFlow "flow-0001").map Flow.graph).isSome = true := by
            decide +kernel
          rw [← absent] at present
          cases present

open Event in
theorem checked_flows_are_not_left_asked :
    (∃ (run : Ran sampleSettings) (flow : Flow), run.isResume = true ∧ run.Has flow ∧
      flow.IsChecked ∧ run.StaysOn flow) ∧
    ∃ row old first second, misled.scene.store.getSession "session-0001" = some row ∧ row.IsLost ∧
      emptied.scene.store.getSession "session-0001" = some old ∧
      Parted emptied "session-0001" old first second := by
  have idle : decide (asked.worker ()).IsIdle = true := by decide +kernel
  have emptied_idle : decide (emptied.worker ()).IsIdle = true := by decide +kernel
  constructor
  · have begun := beginning_begun asked idle (Stimulus.inbound contactReply).operation
    have onward : Onward () (asked.beginning (Stimulus.inbound contactReply).operation) heard :=
      Alone.onward (alone_play sampleSettings _ () Nothing 7)
    have known : (reportOf? (heard.worker ())).any (fun report => report.status = .completed) =
        true := by decide +kernel
    obtain ⟨report, done, status⟩ := (Option.any_eq_true _ _).mp known
    have ends : (heard.worker ()).Ends (.ok (some report)) := by
      rw [reportOf?_eq_some done]
      rfl
    have ran := begun.transcript onward ends
    rw [Stimulus.operation_program] at ran
    obtain ⟨outcome, same, ran⟩ := Operation.reporting_calls ran
    have reached : Reached heard := asked_serial.reached.steps (.head begun.step onward.steps)
    obtain ⟨runs, comprises, stays, _⟩ :=
      checked_flows_are_not_left.1 heard () sampleSettings _ _ _ reached (List.infix_refl _) ran
    cases outcome with
    | error fault => cases same
    | ok found =>
        cases same
        obtain ⟨run, member, result⟩ := comprises.reports report rfl
          (by rw [of_decide_eq_true status]; rfl)
        obtain ⟨opened, stays⟩ := stays run member
        have told : (heard.worker ()).past.reverse.all heardOf = true := by decide +kernel
        obtain ⟨flow, resumes, has, checked, node⟩ := heard_run (List.all_eq_true.mp told) opened
          (comprises.within run member) result
        exact ⟨run, flow, resumes, has, checked, stays flow has checked fun _ => node⟩
  · have serial : Serial Operation.Manages emptied :=
      asked_serial.carryingOut (.saveCanvas "org_1" "flow-0001" [namedStart] [] none) trivial 4 idle
        (by decide +kernel)
    obtain ⟨result, performs⟩ := performs_carryingOut emptied
      (Stimulus.inbound contactReply).operation 7 emptied_idle (by decide +kernel)
    have known : (misled.scene.store.getSession "session-0001").any (fun row =>
        row.status = .failed && row.endReason = some "node_not_found") = true := by decide +kernel
    obtain ⟨row, stands, ended⟩ := (Option.any_eq_true _ _).mp known
    rw [Bool.and_eq_true, decide_eq_true_eq, decide_eq_true_eq] at ended
    have new : emptied.scene.store.getSession "session-0001" ≠ some row := by
      intro same
      have waits : (emptied.scene.store.getSession "session-0001").any (fun row =>
          row.status = .awaitingInput) = true := by decide +kernel
      rw [same] at waits
      have status := of_decide_eq_true waits
      rw [ended.1] at status
      cases status
    obtain ⟨old, first, second, stood, _, parted⟩ := checked_flows_are_not_left.2 emptied misled ()
      sampleSettings _ result serial performs "session-0001" row stands ended new
    exact ⟨row, old, first, second, stands, ended, stood, parted⟩

end Workplace

end ChatFlow

import ChatFlow.Proofs.Archive
import ChatFlow.Proofs.LiveFlows
import ChatFlow.Proofs.WrittenGraphs
/-
Flows whose graphs are settled. Whatever the management of flows stores or files passes the check as
it is written, since it was checked when it came in, or is nothing but a start node; settings,
sessions and timers leave graphs alone.
-/

set_option autoImplicit false

namespace ChatFlow

open Program EnginePast Schema

/-! ### Settled graphs in the store -/

def Flow.graph (flow : Flow) : Graph := ⟨flow.nodes, flow.edges⟩

theorem Flow.SameGraph.graph {first second : Flow} (same : first.SameGraph second) :
    second.graph = first.graph := by
  rw [Flow.graph, same.nodes, same.edges]
  rfl

/-- A graph that was checked is stored with the members that are not known in plain form. -/
theorem Flow.Renews.graph {flow changed : Flow} {graph : Graph} (settled : graph.plain.Settled)
    (renews : flow.Renews changed graph.nodeValues graph.edgeValues) :
    changed.graph = graph.plain := by
  obtain ⟨nodes, edges⟩ := settled.decoded
  rw [renews.nodes] at nodes
  rw [renews.edges] at edges
  rw [Flow.graph, Checked.accepted.inj nodes, Checked.accepted.inj edges]

namespace Store

variable {store later : Store} {id : String} {flow changed : Flow}

/-- All graphs of flows and of snapshots are settled. -/
structure Drawn (store : Store) : Prop where
  flows : ∀ {id flow}, store.getFlow id = some flow → flow.graph.Settled
  versions : ∀ {key snapshot}, (key, snapshot) ∈ store.versions →
    ∃ flow : Flow, flow.graph.Settled ∧ snapshot.Dumps flow

theorem drawn_empty : Store.empty.Drawn where
  flows found := nomatch found
  versions member := nomatch member

namespace Drawn

theorem sameFlows (drawn : store.Drawn) (same : store.SameFlows later) : later.Drawn where
  flows {id _} found := drawn.flows ((same.getFlow id).symm.trans found)
  versions member := drawn.versions (same.versions ▸ member)

theorem owned (drawn : store.Drawn) {organization : String}
    (found : store.getOwnedFlow organization id = some flow) : flow.graph.Settled :=
  drawn.flows (Option.filter_eq_some_iff.mp found).1

theorem rewritten (drawn : store.Drawn) (rewrites : store.Rewrites id flow changed later)
    (settled : changed.graph.Settled) : later.Drawn where
  flows {other row} found := by
    rw [rewrites.rows] at found
    split at found
    · exact Option.some.inj found ▸ settled
    · exact drawn.flows found
  versions member := drawn.versions (rewrites.versions ▸ member)

theorem createFlow (drawn : store.Drawn) (settled : flow.graph.Settled) :
    (store.createFlow flow).2.Drawn where
  flows {other row} found := by
    rw [getFlow_createFlow] at found
    split at found
    · exact Option.some.inj found ▸ settled
    · exact drawn.flows found
  versions member := drawn.versions member

theorem deleteFlow (drawn : store.Drawn) (organization id : String) :
    (store.deleteFlow organization id).2.Drawn where
  flows {other row} found := by
    rw [getFlow_deleteFlow] at found
    split at found
    · cases found
    · exact drawn.flows found
  versions {key snapshot} member := by
    unfold Store.deleteFlow at member
    split at member
    · exact drawn.versions member
    · exact drawn.versions (List.mem_filter.mp member).1

theorem saveVersion (drawn : store.Drawn) {version : FlowVersion} (settled : flow.graph.Settled)
    (dumps : version.Dumps flow) : (store.saveVersion version).2.Drawn where
  flows {other row} found := by
    rw [getFlow_saveVersion] at found
    exact drawn.flows found
  versions {key snapshot} member := by
    rcases saveVersion_cases version store with ⟨_, same⟩ | ⟨_, stored, holds, versions, _⟩
    · exact drawn.versions (same ▸ member)
    · rw [versions] at member
      rcases List.mem_append.mp member with earlier | new
      · exact drawn.versions earlier
      · cases List.mem_singleton.mp new
        exact ⟨flow, settled, holds flow dumps⟩

theorem updateFlow (drawn : store.Drawn) {organization : String} {settings : Table Value}
    (keeps : KeepsGraph settings) (now : Stamp) :
    (store.answer now (.updateFlow organization id settings)).2.Drawn := by
  refine changing_snd Drawn drawn fun found later done => ?_
  rcases updateFlow_rewrites done with ⟨_, _, rfl⟩ | ⟨_, _, _, _, takes, rewrites⟩
  · exact drawn
  · refine drawn.rewritten rewrites ?_
    rw [(takes.sameGraph (keeps.put now)).graph]
    exact drawn.flows rewrites.found

theorem replaceGraph (drawn : store.Drawn) {graph : Graph} (settled : graph.plain.Settled)
    (expected : Int) (editor : Option String) (now : Stamp) :
    (store.answer now
      (.replaceGraph id expected graph.nodeValues graph.edgeValues editor)).2.Drawn := by
  refine changing_snd Drawn drawn fun found later done => ?_
  rcases replaceGraph_rewrites done with ⟨_, _, rfl⟩ | ⟨_, _, _, _, renews, rewrites⟩
  · exact drawn
  · exact drawn.rewritten rewrites (renews.graph settled ▸ settled)

end Drawn

end Store

/-- The start node of a new flow. -/
theorem NewFlow.start_steady : Node.codec.Steady
    ⟨Node.startId, some "Início", Position.origin, .start ⟨[]⟩, []⟩ := by
  have read : Node.decode (.obj [("node_id", .str Node.startId), ("name", .str "Início"),
      ("node_type", .str "start")]) =
    .accepted ⟨Node.startId, some "Início", Position.origin, .start ⟨[]⟩, []⟩ := rfl
  have again := Node.reread read
  rwa [show Node.plain ⟨Node.startId, some "Início", Position.origin, .start ⟨[]⟩, []⟩ =
    ⟨Node.startId, some "Início", Position.origin, .start ⟨[]⟩, []⟩ from rfl] at again

theorem NewFlow.flow_settled (request : NewFlow) (organization : String) (editor : Option String)
    (now : Stamp) : (request.flow organization editor now).graph.Settled where
  nodes node member := by
    cases List.mem_singleton.mp member
    exact NewFlow.start_steady
  edges edge member := nomatch member
  sound := rfl

/-! ### What the management of flows preserves -/

section

variable {organization id : String} {editor : Option String}

namespace Management

theorem duplicate_drawn : Preserves Store.Drawn (duplicate organization id editor) := by
  intro store drawn
  refine reporting_leaves .duplicate ((owned_ensures organization id).bind
    (fun source later known => ?_) fun _ _ known => known.1 ▸ drawn)
  obtain ⟨rfl, owned⟩ := known
  have settled : source.graph.Settled := drawn.owned owned
  exact Ensures.now fun now =>
    @Ensures.asks later (.createFlow _) _ fun stamp => drawn.createFlow settled

/-- A snapshot of a flow that was read is filed. -/
theorem fileSnapshot_ensures {store : Store} {flow : Flow} (now : Stamp) :
    Ensures (succeeds fun _ later => (∀ other, later.getFlow other = store.getFlow other) ∧
        (store.Drawn → flow.graph.Settled → later.Drawn))
      (discard (Engine.store (.saveVersion (snapshot id flow editor now)))) store := by
  have asked : Ensures (succeeds fun _ later =>
      (∀ other, later.getFlow other = store.getFlow other) ∧
        (store.Drawn → flow.graph.Settled → later.Drawn))
      (Engine.store (.saveVersion (snapshot id flow editor now))) store :=
    @Ensures.asks store (.saveVersion (snapshot id flow editor now)) _ fun stamp =>
      ⟨Store.getFlow_saveVersion _ store, fun drawn settled => drawn.saveVersion settled ⟨rfl, rfl⟩⟩
  exact asked.discard.weaken fun result later known => by
    cases result with
    | ok _ => exact known.elim fun _ known => known
    | error fault => exact known

theorem saveCanvas_drawn {nodes edges : List Value} :
    Preserves Store.Drawn (saveCanvas organization id nodes edges editor) := by
  intro store drawn
  refine reporting_leaves .saveCanvas ((owned_ensures organization id).bind
    (fun flow later known => ?_) fun _ _ known => known.1 ▸ drawn)
  obtain ⟨rfl, owned⟩ := known
  cases checked : Graph.ofValues nodes edges with
  | error fault => exact Ensures.fail drawn
  | ok graph =>
      refine Ensures.now fun now => (fileSnapshot_ensures now).andThen fun _ filed known => ?_
      have replaced : Ensures (fun _ last => last.Drawn) (Engine.store (.replaceGraph id
          flow.version graph.nodeValues graph.edgeValues editor)) filed :=
        @Ensures.asks filed (.replaceGraph id flow.version graph.nodeValues graph.edgeValues editor)
          _ fun stamp => (known.2 drawn (drawn.owned owned)).replaceGraph
            (Graph.plain_settled checked) flow.version editor stamp
      exact replaced.onward fun found last known => orFail_preserves _ found last known

/-- A snapshot is found as it is on file, or there is none of a flow of the organization. -/
theorem version_ensures {store : Store} (number : Int) :
    Ensures (fun result later => later = store ∧ match result with
        | .ok kept => (store.getOwnedFlow organization id).isSome ∧
            store.getVersion id number = some kept
        | .error _ => store.getOwnedFlow organization id = none ∨ store.getVersion id number = none)
      (version organization id number) store := by
  have found : Ensures (fun result later => later = store ∧ match result with
      | .ok _ => (store.getOwnedFlow organization id).isSome
      | .error _ => store.getOwnedFlow organization id = none)
      (discard (owned organization id)) store :=
    (owned_ensures organization id).bind
      (fun flow _ known => Ensures.done ⟨known.1, known.2 ▸ rfl⟩) fun _ _ known => known
  refine found.bind (fun _ later known => ?_) fun _ _ known => ⟨known.1, Or.inl known.2⟩
  obtain ⟨rfl, present⟩ := known
  have asked : Ensures (succeeds fun (kept : Option FlowVersion) last => last = later ∧
      later.getVersion id number = kept) (Engine.store (.getVersion id number)) later :=
    @look_ensures later (.getVersion id number) _ fun _ => ⟨_, rfl, rfl⟩
  refine asked.andThen fun kept last known => ?_
  obtain ⟨rfl, stands⟩ := known
  exact orFail_ensures (fun _ same => ⟨rfl, present, stands.trans same⟩)
    fun same => ⟨rfl, Or.inr (stands.trans same)⟩

theorem restore_drawn {number : Int} :
    Preserves Store.Drawn (restore organization id number editor) := by
  intro store drawn
  refine (version_ensures number).bind (fun kept later known => ?_)
    fun _ _ known => known.1 ▸ drawn
  exact saveCanvas_drawn later (known.1 ▸ drawn)

end Management

end

/-- The management of flows: all events but those that put a flow into the store as it is. -/
def Operation.Manages : Operation → Prop
  | .install _ => False
  | _ => True

section

variable {store : Store} {settings : EngineSettings}

theorem cancelFlowSessions_drawn (flow reason : String) :
    Preserves Store.Drawn (Event.cancelFlowSessions flow reason) := fun _ drawn =>
  (Ensures.sameFlows (Event.cancelFlowSessions_sparesFlows flow reason [])).weaken fun _ _ same =>
    drawn.sameFlows same

theorem Occurrence.drawn (occurrence : Occurrence) (drawn : store.Drawn) :
    Ensures (fun _ later => later.Drawn) (occurrence.operation.program settings) store :=
  (Ensures.sameFlows occurrence.sparesFlows).weaken fun _ _ same => drawn.sameFlows same

/-- Every event leaves settled graphs, unless it puts a flow into the store as it is. -/
theorem Operation.program_drawn (operation : Operation) (manages : operation.Manages)
    (drawn : store.Drawn) :
    Ensures (fun _ later => later.Drawn) (operation.program settings) store := by
  have updates := fun (organization id : String) (settings : Table Value)
      (keeps : KeepsGraph settings) =>
    @Preserves.ask Store.Drawn (.updateFlow organization id settings) fun _ stamp drawn =>
      drawn.updateFlow keeps stamp
  have deletes := fun (organization id : String) =>
    @Preserves.ask Store.Drawn (.deleteFlow organization id) fun _ _ drawn =>
      drawn.deleteFlow organization id
  cases operation with
  | inbound message => exact (Occurrence.run (.inbound message)).drawn drawn
  | start organization request startedBy =>
      exact (Occurrence.run (.start organization request startedBy)).drawn drawn
  | resume conversation session node =>
      exact (Occurrence.run (.resume conversation session node)).drawn drawn
  | cancel organization conversation reason =>
      exact (Occurrence.cancel organization conversation reason).drawn drawn
  | cancelFlow flow reason =>
      exact silent_preserves (cancelFlowSessions_drawn flow reason) store drawn
  | poll =>
      refine silent_leaves ?_
      exact (Ensures.sameFlows (Timer.poll_sparesFlows [])).weaken fun _ _ same =>
        drawn.sameFlows same
  | install flow => exact manages.elim
  | create organization editor request =>
      have creates := fun now => @Preserves.ask Store.Drawn
        (.createFlow (request.flow organization editor now)) fun _ _ drawn =>
          drawn.createFlow (request.flow_settled organization editor now)
      exact silent_preserves (Management.create_preserves creates) store drawn
  | duplicate organization id editor =>
      exact silent_preserves Management.duplicate_drawn store drawn
  | saveCanvas organization id nodes edges editor =>
      exact silent_preserves Management.saveCanvas_drawn store drawn
  | restore organization id number editor =>
      exact silent_preserves Management.restore_drawn store drawn
  | update hasEngine organization id request =>
      exact silent_preserves (Management.update_preserves cancelFlowSessions_drawn updates hasEngine
        organization id request) store drawn
  | toggle hasEngine organization id =>
      exact silent_preserves (Management.toggle_preserves cancelFlowSessions_drawn updates hasEngine
        organization id) store drawn
  | delete hasEngine organization id =>
      exact silent_preserves (Management.delete_preserves cancelFlowSessions_drawn deletes hasEngine
        organization id) store drawn

end

end ChatFlow

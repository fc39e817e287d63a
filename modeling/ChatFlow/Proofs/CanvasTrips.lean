import ChatFlow.Proofs.DrawnFlows
import ChatFlow.Proofs.GraphHistory
/-
Canvases that go out and come back. What a canvas shows can be saved, and changes nothing of the
graph; a snapshot can be restored, as a version more, and the canvas then shows just the snapshot.
-/

set_option autoImplicit false

namespace ChatFlow

open Program EnginePast Schema

/-! ### Writing a graph that was checked -/

section

variable {store : Store} {organization id : String} {flow : Flow} {graph : Graph}
  {editor : Option String}

/-- The values of a checked graph are read as the graph of a flow. -/
theorem Flow.withSettings_graph (settled : graph.plain.Settled) (version : Int) (now : Stamp) :
    ∃ changed, flow.withSettings (Table.put "updated_at" (.stamp now)
      [("nodes", .arr graph.nodeValues), ("edges", .arr graph.edgeValues),
        ("version", .int version), ("is_draft", .bool false),
        ("last_edited_by", .ofText? editor)]) = .accepted changed := by
  obtain ⟨nodes, edges⟩ := settled.decoded
  refine ⟨{ flow with
    nodes := graph.plain.nodes
    edges := graph.plain.edges
    version := version
    isDraft := false
    lastEditedBy := editor
    updatedAt := now }, ?_⟩
  simp [Flow.withSettings, withDefault, Table.put, Table.lookup?, nodes, edges]

theorem Store.setFields_succeeds {changed : Flow} {settings : Table Value} {now : Stamp}
    (accepted :
      flow.withSettings (Table.put "updated_at" (.stamp now) settings) = .accepted changed) :
    store.setFields id settings now flow =
      .ok (changed, { store with flows := Table.put id changed store.flows }) := by
  unfold setFields
  rw [accepted]

theorem Store.replaceGraph_succeeds (stands : store.getFlow id = some flow)
    (settled : graph.plain.Settled) (now : Stamp) :
    ∃ changed later,
      store.replaceGraph id flow.version graph.nodeValues graph.edgeValues editor now =
        .ok (some changed, later) := by
  obtain ⟨changed, accepted⟩ :=
    @Flow.withSettings_graph flow graph editor settled (flow.version + 1) now
  have expected : (store.getFlow id).filter (fun other => other.version = flow.version) =
      some flow := by
    rw [stands]
    simp
  unfold replaceGraph
  rw [expected]
  exact ⟨changed, _, congrArg (Except.map fun pair => (some pair.1, pair.2))
    (setFields_succeeds accepted)⟩

namespace Management

theorem reporting_succeeds {α : Type} {good : α → Store → Prop} (operation : FlowOperation)
    {program : Engine α} (ensures : Ensures (succeeds good) program store) :
    Ensures (succeeds good) (reporting operation program) store := by
  refine ensures.outcome.andThen fun result later known => ?_
  cases result with
  | ok value => exact Ensures.done known
  | error fault => exact known.elim

theorem owned_succeeds (found : store.getOwnedFlow organization id = some flow) :
    Ensures (succeeds fun given later => later = store ∧ given = flow) (owned organization id)
      store := by
  refine (owned_ensures organization id).weaken ?_
  rintro (fault | given) later ⟨rfl, known⟩
  · cases found.symm.trans known
  · exact ⟨rfl, Option.some.inj (known.symm.trans found)⟩

/-- A graph that passes the check is saved as the next version. -/
theorem saveCanvas_succeeds {nodes edges : List Value}
    (found : store.getOwnedFlow organization id = some flow)
    (checked : Graph.ofValues nodes edges = .ok graph) :
    Ensures (succeeds fun saved later => later.getFlow id = some saved ∧
        saved.graph = graph.plain ∧ saved.version = flow.version + 1 ∧ saved.id = flow.id ∧
        saved.organization = flow.organization)
      (saveCanvas organization id nodes edges editor) store := by
  refine reporting_succeeds .saveCanvas ((owned_succeeds found).andThen fun given later known => ?_)
  obtain ⟨rfl, rfl⟩ := known
  rw [checked]
  refine Ensures.now fun now => (fileSnapshot_ensures now).andThen fun _ filed known => ?_
  have stands : filed.getFlow id = some given :=
    (known.1 id).trans (Option.filter_eq_some_iff.mp found).1
  have settled := Graph.plain_settled checked
  have replaced : Ensures (succeeds fun (saved : Option Flow) last => ∃ changed,
      saved = some changed ∧ last.getFlow id = some changed ∧ changed.graph = graph.plain ∧
        changed.version = given.version + 1 ∧ changed.id = given.id ∧
        changed.organization = given.organization)
      (Engine.store (.replaceGraph id given.version graph.nodeValues graph.edgeValues editor))
      filed := by
    refine @Ensures.asks filed
      (.replaceGraph id given.version graph.nodeValues graph.edgeValues editor) _ fun stamp => ?_
    obtain ⟨changed, last, done⟩ :=
      @Store.replaceGraph_succeeds filed id given graph editor stands settled stamp
    simp only [Store.answer, done]
    rcases Store.replaceGraph_rewrites done with
      ⟨_, same, _⟩ | ⟨old, new, _, same, renews, rewrites⟩
    · cases same
    · cases same
      cases stands.symm.trans rewrites.found
      exact ⟨changed, rfl, (rewrites.rows id).trans (if_pos rfl), renews.graph settled,
        renews.version, renews.id, renews.organization⟩
  refine replaced.andThen fun saved last known => ?_
  obtain ⟨changed, rfl, known⟩ := known
  exact Ensures.done known

theorem version_succeeds {number : Int} {kept : FlowVersion}
    (found : store.getOwnedFlow organization id = some flow)
    (filed : store.getVersion id number = some kept) :
    Ensures (succeeds fun given later => later = store ∧ given = kept)
      (version organization id number) store := by
  refine (version_ensures number).weaken ?_
  rintro (fault | given) later ⟨rfl, known⟩
  · rcases known with absent | absent
    · cases found.symm.trans absent
    · cases filed.symm.trans absent
  · exact ⟨rfl, Option.some.inj (known.2.symm.trans filed)⟩

end Management

/-! ### Canvases -/

/-- What the canvas of a flow shows. -/
def Store.Shows (store : Store) (organization id : String) (version : Int)
    (nodes edges : List Value) : Prop :=
  Ensures (succeeds fun canvas later => later = store ∧ canvas = .obj [("flow_id", .str id),
      ("version", .int version), ("nodes", .arr nodes), ("edges", .arr edges)])
    (Management.canvas organization id) store

theorem Store.shows_of_owned (found : store.getOwnedFlow organization id = some flow)
    (named : flow.id = some id) :
    store.Shows organization id flow.version flow.graph.nodeValues flow.graph.edgeValues := by
  refine (Management.owned_succeeds found).andThen fun given later known => ?_
  obtain ⟨rfl, rfl⟩ := known
  refine Ensures.done ⟨rfl, ?_⟩
  rw [named]
  rfl

/-- A settled graph that is saved is the graph of the flow from then on, and is shown as it was
written. -/
theorem Management.saveCanvas_shows (settled : graph.Settled)
    (found : store.getOwnedFlow organization id = some flow) (named : flow.id = some id) :
    Ensures (succeeds fun saved later => later.getFlow id = some saved ∧ saved.graph = graph ∧
        saved.version = flow.version + 1 ∧
        later.Shows organization id (flow.version + 1) graph.nodeValues graph.edgeValues)
      (saveCanvas organization id graph.nodeValues graph.edgeValues editor) store := by
  refine (saveCanvas_succeeds found settled.checked).weaken ?_
  rintro (fault | saved) later known
  · exact known.elim
  · obtain ⟨stands, drawn, version, sameId, sameOwner⟩ := known
    have same : saved.graph = graph := drawn.trans settled.plain
    have owned : later.getOwnedFlow organization id = some saved := by
      refine Option.filter_eq_some_iff.mpr ⟨stands, ?_⟩
      rw [sameOwner]
      exact (Option.filter_eq_some_iff.mp found).2
    have shows := later.shows_of_owned owned (sameId.trans named)
    rw [same, version] at shows
    exact ⟨stands, same, version, shows⟩

/-- A snapshot of a settled graph is restored as the next version. -/
theorem Management.restore_shows {number : Int} {kept : FlowVersion} {source : Flow}
    (settled : source.graph.Settled) (dumps : kept.Dumps source)
    (filed : store.getVersion id number = some kept)
    (found : store.getOwnedFlow organization id = some flow) (named : flow.id = some id) :
    Ensures (succeeds fun restored later => later.getFlow id = some restored ∧
        restored.version = flow.version + 1 ∧
        later.Shows organization id (flow.version + 1) (kept.nodes.map .obj) (kept.edges.map .obj))
      (restore organization id number editor) store := by
  have nodes : kept.nodes.map Value.obj = source.graph.nodeValues := by
    rw [dumps.nodes, List.map_map]
    rfl
  have edges : kept.edges.map Value.obj = source.graph.edgeValues := by
    rw [dumps.edges, List.map_map]
    rfl
  refine (version_succeeds found filed).andThen fun given later known => ?_
  obtain ⟨rfl, rfl⟩ := known
  rw [nodes, edges]
  refine (saveCanvas_shows settled found named).weaken ?_
  rintro (fault | restored) last known
  · exact known.elim
  · obtain ⟨stands, _, version, shows⟩ := known
    exact ⟨stands, version, shows⟩

theorem Store.filed_of_getVersion {number : Int} {kept : FlowVersion}
    (filed : store.getVersion id number = some kept) : ((id, number), kept) ∈ store.versions := by
  unfold getVersion at filed
  obtain ⟨entry, found, rfl⟩ := Option.map_eq_some_iff.mp filed
  have same := List.find?_some found
  rw [← of_decide_eq_true same]
  exact List.mem_of_find?_eq_some found

end

namespace Workplace

variable {ι : Type}

/-- What passes the check passes it once more as it is written, and is then written the same. So after
any events of the management and of the engine, one upon the other, saving what a canvas shows changes
nothing of the graph; and restoring a snapshot makes a version more of the flow, and the canvas then
shows what the snapshot holds. -/
theorem canvas_round_trip :
    (∀ (nodes edges : List Value) (graph : Graph), Graph.ofValues nodes edges = .ok graph →
      ∃ again, Graph.ofValues graph.nodeValues graph.edgeValues = .ok again ∧
        again.nodeValues = graph.nodeValues ∧ again.edgeValues = graph.edgeValues) ∧
    ∀ (place : Workplace ι), Serial Operation.Manages place → ∀ (id : String) (flow : Flow),
      place.scene.store.getFlow id = some flow → ∃ nodes edges,
        place.scene.store.Shows flow.organization id flow.version nodes edges ∧
        (∀ editor, Ensures (succeeds fun saved later => later.getFlow id = some saved ∧
            saved.nodes = flow.nodes ∧ saved.edges = flow.edges ∧
            later.Shows flow.organization id (flow.version + 1) nodes edges)
          (Management.saveCanvas flow.organization id nodes edges editor) place.scene.store) ∧
        ∀ (number : Int) (kept : FlowVersion), place.scene.store.getVersion id number = some kept →
          ∀ editor, Ensures (succeeds fun restored later => later.getFlow id = some restored ∧
              restored.version = flow.version + 1 ∧
              later.Shows flow.organization id (flow.version + 1) (kept.nodes.map .obj)
                (kept.edges.map .obj))
            (Management.restore flow.organization id number editor) place.scene.store := by
  refine ⟨fun nodes edges graph checked => ?_, fun place serial id flow stands => ?_⟩
  · exact ⟨graph.plain, Graph.checked_again checked, graph.plain_nodeValues,
      graph.plain_edgeValues⟩
  · have drawn : place.scene.store.Drawn :=
      serial.keeps Store.drawn_empty fun _ operation _ _ manages _ _ drawn =>
        operation.program_drawn manages drawn
    obtain ⟨register, registered⟩ := serial.reached.registered
    have named : flow.id = some id := (registered.owned.flows (Table.mem_of_lookup? stands)).1
    have owned : place.scene.store.getOwnedFlow flow.organization id = some flow :=
      Option.filter_eq_some_iff.mpr ⟨stands, decide_eq_true rfl⟩
    have settled := drawn.flows stands
    refine ⟨_, _, Store.shows_of_owned owned named, fun editor => ?_, ?_⟩
    · refine (Management.saveCanvas_shows settled owned named).weaken ?_
      rintro (fault | saved) later known
      · exact known.elim
      · obtain ⟨present, same, _, shows⟩ := known
        exact ⟨present, congrArg Graph.nodes same, congrArg Graph.edges same, shows⟩
    · intro number kept filed editor
      obtain ⟨source, drawnSource, dumps⟩ := drawn.versions (Store.filed_of_getVersion filed)
      exact Management.restore_shows drawnSource dumps filed owned named

theorem redrawn_serial : Serial Operation.Manages redrawn := by
  have drafted : Serial Operation.Manages drafted :=
    Serial.carryingOut (.start default) (.create "org_1" none leadRequest) trivial 2 (by decide)
      (by decide +kernel)
  exact drafted.carryingOut (.saveCanvas "org_1" "flow-0001" [namedStart] [] none) trivial 4
    (by decide +kernel) (by decide +kernel)

/-- The graph that a flow was created with is restored after another one was saved. -/
theorem canvas_round_trip_redrawn :
    (∃ graph again, Graph.ofValues [namedStart] [] = .ok graph ∧
      Graph.ofValues graph.nodeValues graph.edgeValues = .ok again ∧
      again.nodeValues = graph.nodeValues) ∧
    ∃ flow kept, redrawn.scene.store.getFlow "flow-0001" = some flow ∧
      redrawn.scene.store.getVersion "flow-0001" 1 = some kept ∧
      Ensures (succeeds fun restored later => restored.version = flow.version + 1 ∧
          later.Shows flow.organization "flow-0001" (flow.version + 1) (kept.nodes.map .obj)
            (kept.edges.map .obj))
        (Management.restore flow.organization "flow-0001" 1 none) redrawn.scene.store := by
  have checks : ∃ graph, Graph.ofValues [namedStart] [] = .ok graph := ⟨_, rfl⟩
  obtain ⟨graph, checked⟩ := checks
  obtain ⟨again, passes, same, _⟩ := (@canvas_round_trip Unit).1 _ _ graph checked
  have row : (redrawn.scene.store.getFlow "flow-0001").isSome = true := by decide +kernel
  have snapshot : (redrawn.scene.store.getVersion "flow-0001" 1).isSome = true := by decide +kernel
  obtain ⟨flow, stands⟩ := Option.isSome_iff_exists.mp row
  obtain ⟨kept, filed⟩ := Option.isSome_iff_exists.mp snapshot
  obtain ⟨_, _, _, _, restores⟩ :=
    canvas_round_trip.2 redrawn redrawn_serial "flow-0001" flow stands
  refine ⟨⟨graph, again, checked, passes, same⟩, flow, kept, stands, filed, ?_⟩
  refine (restores 1 kept filed none).weaken ?_
  rintro (fault | restored) later known
  · exact known.elim
  · exact known.2

end Workplace

end ChatFlow

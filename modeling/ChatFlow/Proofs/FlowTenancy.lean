import ChatFlow.Proofs.CanvasTrips
/-
The management of flows and what belongs to others. Every operation finds the flow that it names for
its own organization before anything else, so that the writes after that, which ask for no owner,
meet no flow and no snapshot of another organization.
-/

set_option autoImplicit false

namespace ChatFlow

open Program

/-! ### Requests -/

namespace Management

/-- What an organization can ask of its flows. -/
inductive Request where
  | create (editor : Option String) (request : NewFlow)
  | list
  | detail (id : String)
  | update (id : String) (request : FlowUpdate)
  | toggle (id : String)
  | delete (id : String)
  | saveCanvas (id : String) (nodes edges : List Value) (editor : Option String)
  | canvas (id : String)
  | duplicate (id : String) (editor : Option String)
  | versions (id : String)
  | version (id : String) (number : Int)
  | restore (id : String) (number : Int) (editor : Option String)
  | available (connection : Option String)

namespace Request

/-- The flow that a request names. -/
def names? : Request → Option String
  | .create .. | .list | .available _ => none
  | .detail id | .update id _ | .toggle id | .delete id | .saveCanvas id .. | .canvas id
  | .duplicate id _ | .versions id | .version id _ | .restore id .. => some id

def Answer : Request → Type
  | .list | .available _ => List Flow
  | .delete _ => Unit
  | .canvas _ => Value
  | .versions _ => List FlowVersion
  | .version .. => FlowVersion
  | _ => Flow

def program (hasEngine : Bool) (organization : String) : (request : Request) → Engine request.Answer
  | .create editor request => Management.create organization editor request
  | .list => Management.list organization
  | .detail id => owned organization id
  | .update id request => Management.update hasEngine organization id request
  | .toggle id => Management.toggle hasEngine organization id
  | .delete id => Management.delete hasEngine organization id
  | .saveCanvas id nodes edges editor => Management.saveCanvas organization id nodes edges editor
  | .canvas id => Management.canvas organization id
  | .duplicate id editor => Management.duplicate organization id editor
  | .versions id => Management.versions organization id
  | .version id number => Management.version organization id number
  | .restore id number editor => Management.restore organization id number editor
  | .available connection => Management.available organization connection

end Request

end Management

/-! ### Stores that agree on what belongs to others -/

namespace Store

variable {store middle later : Store} {organization id : String} {flow changed : Flow}

def snapshotsOf (store : Store) (id : String) : List ((String × Int) × FlowVersion) :=
  store.versions.filter fun entry => entry.1.1 = id

/-- Two stores have the same flows of all organizations but one, and the same snapshots of these
flows. -/
structure SparesForeign (organization : String) (store later : Store) : Prop where
  flows : ∀ id flow, flow.organization ≠ organization →
    (later.getFlow id = some flow ↔ store.getFlow id = some flow)
  snapshots : ∀ id flow, flow.organization ≠ organization → store.getFlow id = some flow →
    later.snapshotsOf id = store.snapshotsOf id

theorem getOwnedFlow_eq_some : store.getOwnedFlow organization id = some flow ↔
    store.getFlow id = some flow ∧ flow.organization = organization := by
  unfold getOwnedFlow
  rw [Option.filter_eq_some_iff, decide_eq_true_iff]

/-- There is no flow of an organization where every flow is of another one. -/
theorem getOwnedFlow_eq_none (others : ∀ flow, store.getFlow id = some flow →
    flow.organization ≠ organization) : store.getOwnedFlow organization id = none := by
  cases found : store.getOwnedFlow organization id with
  | none => rfl
  | some flow =>
      obtain ⟨stands, owner⟩ := getOwnedFlow_eq_some.mp found
      exact absurd owner (others flow stands)

/-- The identifier of a flow is that of no flow of another organization. -/
theorem apart_of_owned {other : String} {foreign : Flow}
    (owned : store.getOwnedFlow organization id = some flow)
    (stands : store.getFlow other = some foreign)
    (apart : foreign.organization ≠ organization) : id ≠ other := by
  intro same
  obtain ⟨found, owner⟩ := getOwnedFlow_eq_some.mp owned
  rw [same, stands] at found
  cases found
  exact apart owner

namespace SparesForeign

theorem refl (organization : String) (store : Store) : SparesForeign organization store store :=
  ⟨fun _ _ _ => Iff.rfl, fun _ _ _ _ => rfl⟩

theorem trans (lower : SparesForeign organization store middle)
    (upper : SparesForeign organization middle later) : SparesForeign organization store later where
  flows id flow apart := (upper.flows id flow apart).trans (lower.flows id flow apart)
  snapshots id flow apart stands :=
    (upper.snapshots id flow apart ((lower.flows id flow apart).mpr stands)).trans
      (lower.snapshots id flow apart stands)

theorem of_same (same : store.SameFlows later) : SparesForeign organization store later where
  flows id flow _ := by rw [same.getFlow]
  snapshots id flow _ _ := by unfold snapshotsOf; rw [same.versions]

end SparesForeign

/-- A flow that is created under a free identifier takes no row of others. -/
theorem createFlow_sparesForeign (free : store.getFlow (rowId "flow" (store.counts.flows + 1)) = none)
    (owner : flow.organization = organization) :
    SparesForeign organization store (store.createFlow flow).2 where
  flows other foreign apart := by
    rw [getFlow_createFlow]
    split
    · next same =>
        rw [← same, free]
        refine ⟨fun stored => ?_, fun absent => (by cases absent)⟩
        cases stored
        exact absurd owner apart
    · exact Iff.rfl
  snapshots _ _ _ _ := rfl

/-- A flow that is written over and keeps its owner is no flow of others. -/
theorem Rewrites.sparesForeign (rewrites : store.Rewrites id flow changed later)
    (owner : flow.organization = organization) (kept : changed.organization = organization) :
    SparesForeign organization store later where
  flows other foreign apart := by
    rw [rewrites.rows]
    split
    · next same =>
        rw [← same, rewrites.found, Option.some_inj, Option.some_inj]
        constructor
        · rintro rfl
          exact absurd kept apart
        · rintro rfl
          exact absurd owner apart
    · exact Iff.rfl
  snapshots other _ _ _ := by unfold snapshotsOf; rw [rewrites.versions]

theorem deleteFlow_sparesForeign (organization id : String) (store : Store) :
    SparesForeign organization store (store.deleteFlow organization id).2 where
  flows other foreign apart := by
    rw [getFlow_deleteFlow]
    split
    · next gone =>
        obtain ⟨owned, rfl⟩ := gone
        obtain ⟨flow, owned⟩ := Option.isSome_iff_exists.mp owned
        refine ⟨fun absent => (by cases absent), fun stands => ?_⟩
        exact absurd rfl (apart_of_owned owned stands apart)
    · exact Iff.rfl
  snapshots other foreign apart stands := by
    unfold deleteFlow
    split
    · rfl
    · next flow owned =>
        have differs : id ≠ other := apart_of_owned owned stands apart
        unfold snapshotsOf
        simp only [List.filter_filter]
        refine List.filter_congr fun entry _ => ?_
        by_cases here : entry.1.1 = other <;> simp [here, differs.symm]

/-- A snapshot is filed under the flow that it is of. -/
theorem saveVersion_sparesForeign {version : FlowVersion}
    (owned : store.getOwnedFlow organization version.flow = some flow) :
    SparesForeign organization store (store.saveVersion version).2 where
  flows other foreign apart := by rw [getFlow_saveVersion]
  snapshots other foreign apart stands := by
    have differs : version.flow ≠ other := apart_of_owned owned stands apart
    rcases saveVersion_cases version store with ⟨_, same⟩ | ⟨_, stored, _, versions, _⟩
    · rw [same]
    · unfold snapshotsOf
      rw [versions, List.filter_append]
      simp [differs]

theorem mem_versionsOf {snapshot : FlowVersion} (member : snapshot ∈ store.versionsOf id) :
    ∃ number, ((id, number), snapshot) ∈ store.versions := by
  obtain ⟨entry, filed, rfl⟩ := List.mem_map.mp (List.mem_mergeSort.mp member)
  obtain ⟨stored, same⟩ := List.mem_filter.mp filed
  exact ⟨entry.1.2, of_decide_eq_true same ▸ stored⟩

end Store

/-! ### What an operation for an organization ensures -/

/-- An operation leaves what belongs to others as it is; its value is as asserted; and where it names
a flow that its organization does not have, it fails for that and does nothing. -/
structure Confined {α : Type} (organization : String) (names : Option String) (store : Store)
    (tells : α → Store → Prop) (result : Except Fault α) (later : Store) : Prop where
  spares : store.SparesForeign organization later
  told : ∀ value, result = .ok value → tells value later
  refused : ∀ id, names = some id → store.getOwnedFlow organization id = none →
    result = .error (.flowNotFound id) ∧ later = store

section

variable {α β : Type} {store middle later : Store} {organization id : String}
  {names : Option String} {tells : α → Store → Prop} {flow : Flow} {editor : Option String}
  {hasEngine : Bool}

namespace Confined

theorem reached {value : α} (spares : store.SparesForeign organization later)
    (told : tells value later) : Confined organization none store tells (.ok value) later where
  spares := spares
  told _ same := by cases same; exact told
  refused _ named := nomatch named

theorem failed {fault : Fault} (spares : store.SparesForeign organization later) :
    Confined organization none store tells (.error fault) later where
  spares := spares
  told _ same := nomatch same
  refused _ named := nomatch named

/-- What comes after a first part does as it likes with the flow that the first part found. -/
theorem bind {given : β → Store → Prop} {first : Engine β} {next : β → Engine α}
    (start : Ensures (Confined organization names store given) first store)
    (rest : ∀ value later, store.SparesForeign organization later → given value later →
      Ensures (Confined organization none store tells) (next value) later) :
    Ensures (Confined organization names store tells) (first >>= next) store := by
  refine start.bind (fun value later known => ?_) fun fault later known => ?_
  · refine (rest value later known.spares (known.told value rfl)).weaken fun result last after => ?_
    refine ⟨after.spares, after.told, fun id named absent => ?_⟩
    cases (known.refused id named absent).1
  · refine ⟨known.spares, fun _ same => (by cases same), fun id named absent => ?_⟩
    obtain ⟨same, still⟩ := known.refused id named absent
    cases same
    exact ⟨rfl, still⟩

theorem weaken {weaker : α → Store → Prop} {program : Engine α}
    (confined : Ensures (Confined organization names store tells) program store)
    (implies : ∀ value later, tells value later → weaker value later) :
    Ensures (Confined organization names store weaker) program store :=
  Ensures.weaken confined fun _ _ known =>
    ⟨known.spares, fun value same => implies value _ (known.told value same), known.refused⟩

end Confined

namespace Management

theorem reporting_confined {operation : FlowOperation} {program : Engine α}
    (confined : Ensures (Confined organization names store tells) program store) :
    Ensures (Confined organization names store tells) (reporting operation program) store := by
  refine confined.outcome.andThen fun result later known => ?_
  cases result with
  | ok value => exact Ensures.done known
  | error fault =>
      dsimp only
      split
      · exact Ensures.fail known
      · next foreign =>
          refine Ensures.fail ⟨known.spares, fun _ given => (by cases given),
            fun id named absent => ?_⟩
          -- that a flow is not found is no foreign failure
          obtain ⟨same, _⟩ := known.refused id named absent
          cases same
          exact absurd rfl foreign

/-! ### Reading -/

theorem owned_confined (organization id : String) :
    Ensures (Confined organization (some id) store fun flow later =>
        later = store ∧ store.getOwnedFlow organization id = some flow)
      (owned organization id) store := by
  have asked : Ensures (succeeds fun (found : Option Flow) later => later = store ∧
      store.getOwnedFlow organization id = found)
      (Engine.store (.getOwnedFlow organization id)) store :=
    @look_ensures store (.getOwnedFlow organization id) _ fun _ => ⟨_, rfl, rfl⟩
  refine asked.andThen fun found later known => ?_
  obtain ⟨rfl, same⟩ := known
  refine orFail_ensures (fun flow given => ?_) fun absent => ?_
  · have owned := same.trans given
    refine ⟨.refl organization later, fun _ told => (by cases told; exact ⟨rfl, owned⟩), ?_⟩
    intro _ named unowned
    cases named
    cases owned.symm.trans unowned
  · refine ⟨.refl organization later, fun _ told => (by cases told), fun _ named _ => ?_⟩
    cases named
    exact ⟨rfl, rfl⟩

theorem discard_owned_confined (organization id : String) :
    Ensures (Confined organization (some id) store fun _ later =>
        later = store ∧ (store.getOwnedFlow organization id).isSome)
      (discard (owned organization id)) store :=
  Confined.bind (owned_confined organization id) fun _ _ spares known =>
    Ensures.done (.reached spares ⟨known.1, known.2 ▸ rfl⟩)

theorem version_confined (organization id : String) (number : Int) :
    Ensures (Confined organization (some id) store fun kept later =>
        later = store ∧ (store.getOwnedFlow organization id).isSome ∧
          store.getVersion id number = some kept)
      (version organization id number) store := by
  refine Confined.bind (discard_owned_confined organization id) fun _ later spares known => ?_
  obtain ⟨rfl, present⟩ := known
  have asked : Ensures (succeeds fun (kept : Option FlowVersion) last => last = later ∧
      later.getVersion id number = kept) (Engine.store (.getVersion id number)) later :=
    @look_ensures later (.getVersion id number) _ fun _ => ⟨_, rfl, rfl⟩
  refine asked.andThen fun kept last known => ?_
  obtain ⟨rfl, stands⟩ := known
  exact orFail_ensures (fun _ same => .reached spares ⟨rfl, present, stands.trans same⟩)
    fun _ => .failed spares

/-! ### Writing -/

theorem createFlow_confined (free : store.getFlow (rowId "flow" (store.counts.flows + 1)) = none)
    (owner : flow.organization = organization) :
    Ensures (Confined organization none store fun created later =>
        (∃ id, later.getOwnedFlow organization id = some created) ∧ created.graph = flow.graph)
      (Engine.store (.createFlow flow)) store := by
  refine @Ensures.asks store (.createFlow flow) _ fun stamp => ?_
  refine .reached (Store.createFlow_sparesForeign free owner)
    ⟨⟨rowId "flow" (store.counts.flows + 1), ?_⟩, rfl⟩
  exact Store.getOwnedFlow_eq_some.mpr
    ⟨(Store.getFlow_createFlow flow store _).trans (if_pos rfl), owner⟩

theorem updateFlow_confined (owned : store.getOwnedFlow organization id = some flow)
    {settings : Table Value} (keeps : KeepsOwner settings) :
    Ensures (Confined organization none store fun found later =>
        ∀ changed, found = some changed → later.getOwnedFlow organization id = some changed)
      (Engine.store (.updateFlow organization id settings)) store := by
  obtain ⟨_, owner⟩ := Store.getOwnedFlow_eq_some.mp owned
  refine @Ensures.asks store (.updateFlow organization id settings) _ fun stamp => ?_
  simp only [Store.answer]
  cases done : store.updateFlow organization id settings stamp with
  | error fault => exact .failed (.refl organization store)
  | ok pair =>
      obtain ⟨found, later⟩ := pair
      rcases Store.updateFlow_rewrites done with
        ⟨_, rfl, rfl⟩ | ⟨_, changed, stands, rfl, takes, rewrites⟩
      · exact .reached (.refl organization later) fun _ same => by cases same
      · cases owned.symm.trans stands
        have kept := (takes.owner (keeps.put (.stamp stamp)
          (by decide : "updated_at" ≠ "id" ∧ "updated_at" ≠ "organization_id"))).2.trans owner
        refine .reached (rewrites.sparesForeign owner kept) fun _ same => ?_
        cases same
        exact Store.getOwnedFlow_eq_some.mpr ⟨(rewrites.rows id).trans (if_pos rfl), kept⟩

theorem replaceGraph_confined (owned : store.getOwnedFlow organization id = some flow)
    (expected : Int) (nodes edges : List Value) :
    Ensures (Confined organization none store fun found later =>
        ∀ changed, found = some changed → later.getOwnedFlow organization id = some changed ∧
          flow.Renews changed nodes edges)
      (Engine.store (.replaceGraph id expected nodes edges editor)) store := by
  obtain ⟨stands, owner⟩ := Store.getOwnedFlow_eq_some.mp owned
  refine @Ensures.asks store (.replaceGraph id expected nodes edges editor) _ fun stamp => ?_
  simp only [Store.answer]
  cases done : store.replaceGraph id expected nodes edges editor stamp with
  | error fault => exact .failed (.refl organization store)
  | ok pair =>
      obtain ⟨found, later⟩ := pair
      rcases Store.replaceGraph_rewrites done with
        ⟨_, rfl, rfl⟩ | ⟨_, changed, _, rfl, renews, rewrites⟩
      · exact .reached (.refl organization later) fun _ same => by cases same
      · cases stands.symm.trans rewrites.found
        have kept := renews.organization.trans owner
        refine .reached (rewrites.sparesForeign owner kept) fun _ same => ?_
        cases same
        exact ⟨Store.getOwnedFlow_eq_some.mpr ⟨(rewrites.rows id).trans (if_pos rfl), kept⟩, renews⟩

/-- Sessions are cancelled without a look at who owns what, and without a change of any flow. -/
theorem cancelSessions_sameFlows (hasEngine : Bool) (flow reason : String) :
    Ensures (fun _ later => store.SameFlows later) (cancelSessions hasEngine flow reason) store := by
  unfold cancelSessions
  split
  · exact (Ensures.sameFlows (Event.cancelFlowSessions_sparesFlows flow reason [])).onward
      fun _ _ same => Ensures.done same
  · exact Ensures.done (.refl store)

/-- A flow that was changed is told when its sessions have been cancelled. -/
theorem retire_confined (spares : store.SparesForeign organization middle)
    (owned : middle.getOwnedFlow organization id = some flow) (hasEngine : Bool) (reason : String) :
    Ensures (Confined organization none store fun changed later =>
        later.getOwnedFlow organization id = some changed)
      (cancelSessions hasEngine id reason >>= fun _ => pure flow) middle := by
  refine (cancelSessions_sameFlows hasEngine id reason).bind (fun _ later same => ?_)
    fun _ later same => .failed (spares.trans (.of_same same))
  refine Ensures.done (.reached (spares.trans (.of_same same)) ?_)
  unfold Store.getOwnedFlow
  rw [same.getFlow]
  exact owned

theorem update_confined (organization id : String) (request : FlowUpdate) :
    Ensures (Confined organization (some id) store fun changed later =>
        later.getOwnedFlow organization id = some changed)
      (update hasEngine organization id request) store := by
  refine reporting_confined (Confined.bind (owned_confined organization id)
    fun existing later spares known => ?_)
  obtain ⟨rfl, owned⟩ := known
  dsimp only
  split
  · exact Ensures.done (.reached spares owned)
  · refine Confined.bind (updateFlow_confined owned request.settings_keepsOwner)
      fun found middle spares known => ?_
    cases found with
    | none => exact Ensures.fail (.failed spares)
    | some changed =>
        have kept := known changed rfl
        show Ensures _ (if existing.isActive && !changed.isActive then _ else _) middle
        split
        · exact retire_confined spares kept hasEngine "flow_disabled"
        · exact Ensures.done (.reached spares kept)

theorem toggle_confined (organization id : String) :
    Ensures (Confined organization (some id) store fun changed later =>
        later.getOwnedFlow organization id = some changed)
      (toggle hasEngine organization id) store := by
  refine reporting_confined (Confined.bind (owned_confined organization id)
    fun existing later spares known => ?_)
  obtain ⟨rfl, owned⟩ := known
  refine Confined.bind (updateFlow_confined owned ⟨rfl, rfl⟩) fun found middle spares known => ?_
  cases found with
  | none => exact Ensures.fail (.failed spares)
  | some changed =>
      have kept := known changed rfl
      show Ensures _ (if !!existing.isActive then _ else _) middle
      split
      · exact retire_confined spares kept hasEngine "flow_disabled"
      · exact Ensures.done (.reached spares kept)

theorem delete_confined (organization id : String) :
    Ensures (Confined organization (some id) store fun _ _ => True)
      (delete hasEngine organization id) store := by
  refine reporting_confined (Confined.bind (discard_owned_confined organization id)
    fun _ later _ known => ?_)
  obtain ⟨rfl, _⟩ := known
  refine (cancelSessions_sameFlows hasEngine id "flow_deleted").bind (fun _ middle same => ?_)
    fun _ _ same => .failed (.of_same same)
  have removes : Ensures (fun _ last => later.SparesForeign organization last)
      (Engine.store (.deleteFlow organization id)) middle :=
    @Ensures.asks middle (.deleteFlow organization id) _ fun _ =>
      (Store.SparesForeign.of_same same).trans
        (Store.deleteFlow_sparesForeign organization id middle)
  refine removes.bind (fun removed last spares => ?_) fun _ _ spares => .failed spares
  split
  · exact Ensures.fail (.failed spares)
  · exact Ensures.done (.reached spares trivial)

/-- The graph that is saved is the one that was checked. -/
theorem saveCanvas_confined (organization id : String) (nodes edges : List Value)
    (editor : Option String) :
    Ensures (Confined organization (some id) store fun saved later =>
        later.getOwnedFlow organization id = some saved ∧
          ∃ graph, Graph.ofValues nodes edges = .ok graph ∧ saved.graph = graph.plain)
      (saveCanvas organization id nodes edges editor) store := by
  refine reporting_confined (Confined.bind (owned_confined organization id)
    fun flow later spares known => ?_)
  obtain ⟨rfl, owned⟩ := known
  cases checked : Graph.ofValues nodes edges with
  | error fault => exact Ensures.fail (.failed spares)
  | ok graph =>
      refine Ensures.now fun now => ?_
      have files : Ensures (succeeds fun _ filed => later.SparesForeign organization filed ∧
          filed.getOwnedFlow organization id = some flow)
          (Engine.store (.saveVersion (snapshot id flow editor now))) later := by
        refine @Ensures.asks later (.saveVersion (snapshot id flow editor now)) _ fun _ =>
          ⟨Store.saveVersion_sparesForeign owned, ?_⟩
        exact (congrArg (Option.filter _) (Store.getFlow_saveVersion _ later id)).trans owned
      refine files.discard.andThen fun _ filed known => ?_
      obtain ⟨_, spares, standing⟩ := known
      refine (replaceGraph_confined standing flow.version graph.nodeValues graph.edgeValues).bind
        (fun found last known => ?_) fun _ _ known => .failed (spares.trans known.spares)
      refine orFail_ensures (fun saved same => ?_) fun _ => .failed (spares.trans known.spares)
      obtain ⟨kept, renews⟩ := known.told found rfl saved same
      exact .reached (spares.trans known.spares)
        ⟨kept, graph, rfl, renews.graph (Graph.plain_settled checked)⟩

end Management

/-! ### All that an organization can ask -/

namespace Management

/-- What the answer of a request shows: flows, graphs and snapshots of the organization. -/
def Request.Shows (organization : String) (store : Store) :
    (request : Request) → request.Answer → Store → Prop
  | .create .., flow, later => ∃ id, later.getOwnedFlow organization id = some flow
  | .list, (flows : List Flow), _ | .available _, (flows : List Flow), _ => ∀ flow ∈ flows,
      flow.organization = organization ∧ ∃ id, (id, flow) ∈ store.flows
  | .detail id, flow, _ => store.getOwnedFlow organization id = some flow
  | .update id _, flow, later | .toggle id, flow, later | .saveCanvas id .., flow, later =>
      later.getOwnedFlow organization id = some flow
  | .delete _, _, _ => True
  | .canvas id, value, _ => ∃ flow, store.getOwnedFlow organization id = some flow ∧
      value = .obj (("flow_id", .ofText? flow.id) :: ("version", .int flow.version) ::
        flow.graphMembers)
  | .duplicate id _, flow, later => (∃ copy, later.getOwnedFlow organization copy = some flow) ∧
      ∃ source, store.getOwnedFlow organization id = some source ∧ flow.graph = source.graph
  | .versions id, (snapshots : List FlowVersion), _ => (store.getOwnedFlow organization id).isSome ∧
      ∀ snapshot ∈ snapshots, ∃ number, ((id, number), snapshot) ∈ store.versions
  | .version id number, snapshot, _ => (store.getOwnedFlow organization id).isSome ∧
      ((id, number), snapshot) ∈ store.versions
  | .restore id number _, flow, later => later.getOwnedFlow organization id = some flow ∧
      (store.getOwnedFlow organization id).isSome ∧
      ∃ kept graph, ((id, number), kept) ∈ store.versions ∧
        Graph.ofValues (kept.nodes.map .obj) (kept.edges.map .obj) = .ok graph ∧
        flow.graph = graph.plain

theorem flowsOf_confined (organization : String) :
    Ensures (Confined organization none store fun (flows : List Flow) later => later = store ∧
        ∀ flow ∈ flows, flow.organization = organization ∧ ∃ id, (id, flow) ∈ store.flows)
      (Engine.store (.flowsOf organization)) store := by
  refine @Ensures.asks store (.flowsOf organization) _ fun _ => ?_
  simp only [Store.answer]
  cases done : store.flowsOf organization with
  | error fault => exact .failed (.refl organization store)
  | ok flows =>
      refine .reached (.refl organization store) ⟨rfl, fun flow member => ?_⟩
      obtain ⟨row, owner⟩ := List.mem_filter.mp (Store.mem_of_sortFlows done member)
      obtain ⟨entry, stored, rfl⟩ := List.mem_map.mp row
      exact ⟨of_decide_eq_true owner, entry.1, stored⟩

theorem Request.program_confined (hasEngine : Bool) (organization : String) (request : Request)
    (free : store.getFlow (rowId "flow" (store.counts.flows + 1)) = none) :
    Ensures (Confined organization request.names? store (request.Shows organization store))
      (request.program hasEngine organization) store := by
  cases request with
  | create editor request =>
      refine reporting_confined (Ensures.now fun now => ?_)
      exact Confined.weaken (createFlow_confined free rfl) fun _ _ known => known.1
  | list =>
      exact reporting_confined
        (Confined.weaken (flowsOf_confined organization) fun _ _ known => known.2)
  | detail id => exact Confined.weaken (owned_confined organization id) fun _ _ known => known.2
  | update id request => exact update_confined organization id request
  | toggle id => exact toggle_confined organization id
  | delete id => exact delete_confined organization id
  | saveCanvas id nodes edges editor =>
      exact Confined.weaken (saveCanvas_confined organization id nodes edges editor)
        fun _ _ known => known.1
  | canvas id =>
      exact Confined.bind (owned_confined organization id) fun flow _ spares known =>
        Ensures.done (.reached spares ⟨flow, known.2, rfl⟩)
  | duplicate id editor =>
      refine reporting_confined (Confined.bind (owned_confined organization id)
        fun source later _ known => ?_)
      obtain ⟨rfl, owned⟩ := known
      exact Ensures.now fun now => Confined.weaken (createFlow_confined free rfl)
        fun copy last known => ⟨known.1, source, owned, known.2⟩
  | versions id =>
      refine Confined.bind (discard_owned_confined organization id) fun _ later spares known => ?_
      obtain ⟨rfl, present⟩ := known
      exact @Ensures.asks later (.versionsOf id) _ fun _ =>
        .reached spares ⟨present, fun _ member => Store.mem_versionsOf member⟩
  | version id number =>
      exact Confined.weaken (version_confined organization id number) fun kept _ known =>
        ⟨known.2.1, Store.filed_of_getVersion known.2.2⟩
  | restore id number editor =>
      refine Confined.bind (version_confined organization id number)
        fun kept later _ known => ?_
      obtain ⟨rfl, present, filed⟩ := known
      refine (saveCanvas_confined organization id _ _ editor).weaken fun result last saved => ?_
      refine ⟨saved.spares, fun flow same => ?_, fun _ named => nomatch named⟩
      obtain ⟨standing, graph, checked, drawn⟩ := saved.told flow same
      exact ⟨standing, present, kept, graph, Store.filed_of_getVersion filed, checked, drawn⟩
  | available connection =>
      refine Confined.bind (flowsOf_confined organization) fun flows _ spares known => ?_
      refine Ensures.done (.reached spares fun flow member => ?_)
      exact known.2 flow (List.mem_filter.mp member).1

/-- Whatever an organization asks of its flows, the flows of others and their snapshots stay as they
are, and the answer shows only what is its own; a flow of another organization is as one that does
not exist. It takes a store where the identifier that is given out next is free, which is so in every
store that was ever reached. -/
theorem requests_confined (hasEngine : Bool) (organization : String) (request : Request) :
    (∀ store : Store, store.getFlow (rowId "flow" (store.counts.flows + 1)) = none →
      Ensures (fun result later =>
          store.SparesForeign organization later ∧
          (∀ answer, result = .ok answer → request.Shows organization store answer later) ∧
          ∀ id, request.names? = some id →
            (∀ flow, store.getFlow id = some flow → flow.organization ≠ organization) →
            result = .error (.flowNotFound id) ∧ later = store)
        (request.program hasEngine organization) store) ∧
    ∀ {ι : Type} {place : Workplace ι}, Workplace.Reached place →
      place.scene.store.getFlow (rowId "flow" (place.scene.store.counts.flows + 1)) = none := by
  refine ⟨fun store free => ?_, fun reached => reached.enrolled.next_free⟩
  refine (request.program_confined hasEngine organization free).weaken fun result later known =>
    ⟨known.spares, known.told, fun id named others => ?_⟩
  exact known.refused id named (Store.getOwnedFlow_eq_none others)

/-- A snapshot is not restored for an organization whose flow it is not of. -/
theorem requests_confined_foreign_restore :
    Workplace.redrawn.scene.store.getFlow (rowId "flow" 2) = none ∧
    (∀ flow, Workplace.redrawn.scene.store.getFlow "flow-0001" = some flow →
      flow.organization ≠ "org_2") ∧
    Ensures (fun result later =>
        result = .error (.flowNotFound "flow-0001") ∧ later = Workplace.redrawn.scene.store)
      ((Request.restore "flow-0001" 1 none).program true "org_2") Workplace.redrawn.scene.store := by
  have free : Workplace.redrawn.scene.store.getFlow
      (rowId "flow" (Workplace.redrawn.scene.store.counts.flows + 1)) = none := by decide +kernel
  have others : (Workplace.redrawn.scene.store.getFlow "flow-0001").all
      (fun flow => decide (flow.organization ≠ "org_2")) = true := by decide +kernel
  have foreign : ∀ flow, Workplace.redrawn.scene.store.getFlow "flow-0001" = some flow →
      flow.organization ≠ "org_2" := fun flow found => by
    rw [found] at others
    exact of_decide_eq_true others
  refine ⟨by decide +kernel, foreign, ?_⟩
  obtain ⟨confined, _⟩ := requests_confined true "org_2" (.restore "flow-0001" 1 none)
  refine (confined _ free).weaken ?_
  exact fun _ _ known => known.2.2 "flow-0001" rfl foreign

end Management

end

end ChatFlow

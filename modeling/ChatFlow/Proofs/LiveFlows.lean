import ChatFlow.Proofs.FlowRows
import ChatFlow.Proofs.SettledSessions
/-
Active sessions are on active flows. Three events take a flow out of service, each under a condition
of its own, and each ends the sessions of the flow; two others start sessions, and only on flows that
are active.
-/

set_option autoImplicit false

namespace ChatFlow

open Program EnginePast

/-! ### Lone programs of the management -/

namespace Management

variable {store : Store}

theorem reporting_leaves {α : Type} {holds : Store → Prop} (operation : FlowOperation)
    {program : Engine α} (leaves : Ensures (fun _ later => holds later) program store) :
    Ensures (fun _ later => holds later) (reporting operation program) store := by
  refine leaves.outcome.andThen fun result later known => ?_
  cases result with
  | ok value => exact Ensures.done known
  | error fault =>
      dsimp only
      split <;> exact Ensures.fail known

theorem orFail_ensures {α : Type} {post : Except Fault α → Store → Prop} {fault : Fault}
    {value : Option α} (found : ∀ given, value = some given → post (.ok given) store)
    (absent : value = none → post (.error fault) store) :
    Ensures post (orFail fault value) store := by
  cases value with
  | none => exact Ensures.fail (absent rfl)
  | some given => exact Ensures.done (found given rfl)

/-- The flow is found as it stands, or there is none of the organization. -/
theorem owned_ensures (organization id : String) :
    Ensures (fun result later => later = store ∧ match result with
        | .ok flow => store.getOwnedFlow organization id = some flow
        | .error _ => store.getOwnedFlow organization id = none) (owned organization id) store := by
  have asked : Ensures (succeeds fun (found : Option Flow) later => later = store ∧
      store.getOwnedFlow organization id = found)
      (Engine.store (.getOwnedFlow organization id)) store :=
    @look_ensures store (.getOwnedFlow organization id) _ fun _ => ⟨_, rfl, rfl⟩
  refine asked.andThen fun found later known => ?_
  obtain ⟨rfl, stands⟩ := known
  exact orFail_ensures (fun flow same => ⟨rfl, stands.trans same⟩)
    fun same => ⟨rfl, stands.trans same⟩

end Management

/-! ### Stores whose active sessions are on active flows -/

namespace Store

variable {store later : Store} {id : String} {flow changed : Flow} {home : Home}

/-- The flow of a session stands, is active, and belongs to the organization of the session. -/
def Hosts (store : Store) (home : Home) : Prop :=
  ∃ flow, store.getFlow home.flow = some flow ∧ flow.isActive = true ∧
    flow.organization = home.organization

structure Lively (store : Store) : Prop where
  enrolled : store.Enrolled
  orderly : store.Orderly store.Hosts

theorem lively_empty : Store.empty.Lively := ⟨enrolled_empty, orderly_empty⟩

theorem Hosts.of_same (hosts : store.Hosts home)
    (same : later.getFlow home.flow = store.getFlow home.flow) : later.Hosts home := by
  obtain ⟨flow, stands, known⟩ := hosts
  exact ⟨flow, same.trans stands, known⟩

/-- A flow that is written over and stays in service goes on to host its sessions. -/
theorem Hosts.rewritten (hosts : store.Hosts home) (rewrites : store.Rewrites id flow changed later)
    (active : home.flow = id → changed.isActive = true)
    (organization : changed.organization = flow.organization) : later.Hosts home := by
  by_cases same : id = home.flow
  · obtain ⟨hosting, stands, _, owner⟩ := hosts
    have found := rewrites.found
    rw [same, stands] at found
    cases found
    exact ⟨changed, by rw [rewrites.rows, if_pos same], active same.symm,
      organization.trans owner⟩
  · exact hosts.of_same (by rw [rewrites.rows, if_neg same])

namespace Lively

/-- Sessions come and go while the flows stay as they are. -/
theorem sameFlows (lively : store.Lively) (same : store.SameFlows later)
    (orderly : later.Orderly store.Hosts) : later.Lively :=
  ⟨lively.enrolled.sameFlows same,
    orderly.mono fun home hosts => hosts.of_same (same.getFlow home.flow)⟩

theorem offers (lively : store.Lively) {register : Register} (owned : store.Owned register) :
    store.Offers store.Hosts where
  named member := (owned.flows member).1
  placed {_ flow} member active _ :=
    ⟨flow, Table.lookup?_of_mem lively.enrolled.distinct member, active, rfl⟩

theorem createFlow (lively : store.Lively) (given : Flow) :
    (store.createFlow given).2.Lively := by
  refine ⟨lively.enrolled.answer default (.createFlow given), ?_⟩
  have orderly : (store.createFlow given).2.Orderly store.Hosts :=
    @Orderly.of_answer store.Hosts store lively.orderly (.createFlow given) rfl default
  refine orderly.mono fun home hosts => hosts.of_same ?_
  rw [getFlow_createFlow, if_neg]
  intro same
  obtain ⟨flow, stands, _⟩ := hosts
  rw [← same, lively.enrolled.next_free] at stands
  cases stands

/-- A flow that is written over keeps its sessions, if it is in service afterwards or had none. -/
theorem rewritten (lively : store.Lively) (rewrites : store.Rewrites id flow changed later)
    (orderly : later.Orderly store.Hosts)
    (active : flow.isActive = true → changed.isActive = true)
    (organization : changed.organization = flow.organization) : later.Lively := by
  refine ⟨lively.enrolled.rewrites rewrites, orderly.mono fun home hosts => ?_⟩
  refine hosts.rewritten rewrites (fun same => ?_) organization
  obtain ⟨hosting, stands, inService, _⟩ := hosts
  rw [same, rewrites.found] at stands
  cases stands
  exact active inService

end Lively

end Store

/-! ### Programs -/

section

variable {store : Store} {settings : EngineSettings}

/-- When the sessions of a flow have been cancelled, the other ones live as before. -/
theorem Management.cancelSessions_ensures {good : Home → Prop} (orderly : store.Orderly good)
    (flow reason : String) :
    Ensures (succeeds fun _ later => store.SameFlows later ∧
        later.Orderly fun home => good home ∧ home.flow ≠ flow)
      (cancelSessions true flow reason) store := by
  have spared : Ensures (fun _ later => store.SameFlows later)
      (Event.cancelFlowSessions flow reason) store :=
    Ensures.sameFlows (Event.cancelFlowSessions_sparesFlows flow reason [])
  have cancelled : Ensures (succeeds fun _ later => store.SameFlows later ∧
      later.Orderly fun home => good home ∧ home.flow ≠ flow)
      (Event.cancelFlowSessions flow reason) store := by
    refine ((Event.cancelFlowSessions_ensures orderly flow reason).both spared).weaken ?_
    rintro (fault | count) later ⟨known, same⟩
    · exact known.elim
    · exact ⟨same, known⟩
  exact cancelled.andThen fun _ _ known => Ensures.done known

/-- A flow that is out of service after a write loses its sessions. -/
theorem Management.retire_lively {later : Store} {id : String} {flow changed : Flow}
    (lively : store.Lively) (rewrites : store.Rewrites id flow changed later)
    (orderly : later.Orderly store.Hosts) (organization : changed.organization = flow.organization)
    (reason : String) :
    Ensures (fun _ last => last.Lively) (cancelSessions true id reason) later := by
  refine (cancelSessions_ensures orderly id reason).weaken ?_
  rintro (fault | _) last known
  · exact known.elim
  · obtain ⟨same, left⟩ := known
    refine ⟨(lively.enrolled.rewrites rewrites).sameFlows same, left.mono fun home hosted => ?_⟩
    obtain ⟨hosts, off⟩ := hosted
    have rehosted : later.Hosts home :=
      hosts.rewritten rewrites (fun same => absurd same off) organization
    exact rehosted.of_same (same.getFlow home.flow)

/-- Settings are written over the flow that was found, and leave it with its owner; or nothing is
written. -/
theorem Management.updateFlow_ensures (lively : store.Lively) {organization id : String}
    {flow : Flow} (owned : store.getOwnedFlow organization id = some flow) {settings : Table Value}
    (keeps : KeepsOwner settings) :
    Ensures (fun (result : Except Fault (Option Flow)) later => match result with
        | .ok (some changed) => store.Rewrites id flow changed later ∧
            changed.organization = flow.organization ∧ later.Orderly store.Hosts
        | .ok none | .error _ => later = store)
      (Engine.store (.updateFlow organization id settings)) store := by
  refine @Ensures.asks store (.updateFlow organization id settings) _ fun stamp => ?_
  have orderly : (store.answer stamp (.updateFlow organization id settings)).2.Orderly store.Hosts :=
    @Store.Orderly.of_answer store.Hosts store lively.orderly
      (.updateFlow organization id settings) rfl stamp
  simp only [Store.answer] at orderly ⊢
  cases done : store.updateFlow organization id settings stamp with
  | error fault => rfl
  | ok pair =>
      obtain ⟨found, later⟩ := pair
      rw [done] at orderly
      rcases Store.updateFlow_rewrites done with
        ⟨_, rfl, rfl⟩ | ⟨_, changed, stands, rfl, takes, rewrites⟩
      · rfl
      · cases owned.symm.trans stands
        have kept := takes.owner (keeps.put (.stamp stamp)
          (by decide : "updated_at" ≠ "id" ∧ "updated_at" ≠ "organization_id"))
        exact ⟨rewrites, kept.2, orderly⟩

theorem Management.update_lively (lively : store.Lively) (organization id : String)
    (request : FlowUpdate) :
    Ensures (fun _ later => later.Lively) (update true organization id request) store := by
  refine reporting_leaves .update ((owned_ensures organization id).bind
    (fun existing later known => ?_) fun _ _ known => known.1 ▸ lively)
  obtain ⟨rfl, owned⟩ := known
  dsimp only
  split
  · exact Ensures.done lively
  · refine (updateFlow_ensures lively owned request.settings_keepsOwner).bind
      (fun found middle known => ?_) fun _ _ known => known ▸ lively
    cases found with
    | none => exact Ensures.fail (known ▸ lively)
    | some changed =>
        obtain ⟨rewrites, organization, orderly⟩ := known
        show Ensures _ (if existing.isActive && !changed.isActive then _ else _) middle
        split
        · exact (retire_lively lively rewrites orderly organization "flow_disabled").onward
            fun _ _ known => Ensures.done known
        · next stays =>
            refine Ensures.done (lively.rewritten rewrites orderly (fun active => ?_) organization)
            simpa [active] using stays

/-- A flow is put in service or taken out of it. -/
theorem Management.toggle_lively (lively : store.Lively) (organization id : String) :
    Ensures (fun _ later => later.Lively) (toggle true organization id) store := by
  refine reporting_leaves .toggle ((owned_ensures organization id).bind
    (fun existing later known => ?_) fun _ _ known => known.1 ▸ lively)
  obtain ⟨rfl, owned⟩ := known
  dsimp only
  refine (updateFlow_ensures lively owned ⟨rfl, rfl⟩).bind
    (fun found middle known => ?_) fun _ _ known => known ▸ lively
  cases found with
  | none => exact Ensures.fail (known ▸ lively)
  | some changed =>
      obtain ⟨rewrites, organization, orderly⟩ := known
      show Ensures _ (if !!existing.isActive then _ else _) middle
      split
      · exact (retire_lively lively rewrites orderly organization "flow_disabled").onward
          fun _ _ known => Ensures.done known
      · next stays =>
          -- the flow was out of service before, and had no active sessions
          refine Ensures.done (lively.rewritten rewrites orderly (fun active => ?_) organization)
          simp [active] at stays

theorem Management.delete_lively (lively : store.Lively) (organization id : String) :
    Ensures (fun _ later => later.Lively) (delete true organization id) store := by
  have found : Ensures (fun _ later => later = store) (discard (owned organization id)) store :=
    (owned_ensures organization id).bind (fun _ _ known => Ensures.done known.1)
      fun _ _ known => known.1
  refine reporting_leaves .delete (found.bind (fun _ later same => ?_) fun _ _ same => same ▸ lively)
  subst same
  refine (cancelSessions_ensures lively.orderly id "flow_deleted").andThen fun _ middle known => ?_
  obtain ⟨same, orderly⟩ := known
  have enrolled := lively.enrolled.sameFlows same
  have removes : Ensures (fun _ last => last.Lively) (Engine.store (.deleteFlow organization id))
      middle := by
    refine @Ensures.asks middle (.deleteFlow organization id) _ fun stamp => ?_
    refine ⟨enrolled.answer stamp (.deleteFlow organization id), ?_⟩
    refine (@Store.Orderly.of_answer _ middle orderly (.deleteFlow organization id) rfl
      stamp).mono fun home hosted => ?_
    obtain ⟨hosts, off⟩ := hosted
    refine (hosts.of_same (same.getFlow home.flow)).of_same ?_
    exact (Store.getFlow_deleteFlow organization id home.flow middle).trans
      (if_neg fun gone => off gone.2.symm)
  refine removes.onward fun removed last known => ?_
  split
  · exact Ensures.fail known
  · exact Ensures.done known

/-! ### Graphs -/

/-- A graph that is replaced leaves a flow in or out of service, as it was. -/
theorem replaceGraph_preserves (id : String) (expected : Int) (nodes edges : List Value)
    (editor : Option String) :
    Preserves Store.Lively (Engine.store (.replaceGraph id expected nodes edges editor)) := by
  refine Preserves.ask fun store stamp lively => ?_
  have orderly :
      (store.answer stamp (.replaceGraph id expected nodes edges editor)).2.Orderly store.Hosts :=
    @Store.Orderly.of_answer store.Hosts store lively.orderly
      (.replaceGraph id expected nodes edges editor) rfl stamp
  simp only [Store.answer] at orderly ⊢
  cases done : store.replaceGraph id expected nodes edges editor stamp with
  | error fault => exact lively
  | ok pair =>
      obtain ⟨found, later⟩ := pair
      rw [done] at orderly
      rcases Store.replaceGraph_rewrites done with
        ⟨_, rfl, rfl⟩ | ⟨_, changed, _, rfl, renews, rewrites⟩
      · exact lively
      · exact lively.rewritten rewrites orderly (fun active => renews.isActive.trans active)
          renews.organization

theorem saveVersion_preserves (version : FlowVersion) :
    Preserves Store.Lively (Engine.store (.saveVersion version)) := by
  refine Preserves.ask fun store stamp lively => ?_
  have flows : (store.answer stamp (.saveVersion version)).2.flows = store.flows := by
    simp only [Store.answer, Store.changed, Store.saveVersion]
    split <;> rfl
  refine ⟨lively.enrolled.answer stamp _, ?_⟩
  exact (@Store.Orderly.of_answer store.Hosts store lively.orderly (.saveVersion version) rfl
    stamp).mono fun home hosts => hosts.of_same (congrArg (Table.lookup? home.flow) flows)

theorem createFlow_preserves (flow : Flow) :
    Preserves Store.Lively (Engine.store (.createFlow flow)) :=
  .ask fun _ _ lively => lively.createFlow flow

/-! ### All events -/

/-- The management of flows ends sessions: where it changes, toggles or deletes a flow, it has the
engine. -/
def Operation.HasEngine : Operation → Prop
  | .update hasEngine .. | .toggle hasEngine .. | .delete hasEngine .. => hasEngine = true
  | _ => True

theorem Operation.silent_leaves {α : Type} {holds : Store → Prop} {program : Engine α}
    (leaves : Ensures (fun _ later => holds later) program store) :
    Ensures (fun _ later => holds later) (silent program) store := by
  have discarded : Ensures (fun _ later => holds later) (discard program) store :=
    leaves.onward fun _ _ known => Ensures.done known
  exact discarded.onward fun _ _ known => Ensures.done known

theorem Operation.reporting_sparesFlows {program : Engine EventReport} {past : EnginePast}
    (keeps : Keeps SparesFlows program past) : Keeps SparesFlows (reporting program) past :=
  keeps.andThen fun _ _ _ _ => Follows.done trivial

theorem Occurrence.sparesFlows (occurrence : Occurrence) :
    Keeps SparesFlows (occurrence.operation.program settings) [] := by
  rw [occurrence.operation_program]
  refine Operation.reporting_sparesFlows ?_
  cases occurrence with
  | run stimulus =>
      cases stimulus with
      | inbound message => exact Event.inbound_sparesFlows message []
      | start organization request startedBy =>
          exact Event.start_sparesFlows organization request startedBy []
      | resume conversation session node => exact Event.resume_sparesFlows conversation session node []
  | cancel organization conversation reason =>
      exact Event.cancel_sparesFlows organization conversation reason []

theorem Occurrence.lively (occurrence : Occurrence) (lively : store.Lively) {register : Register}
    (owned : store.Owned register) :
    Ensures (fun _ later => later.Lively) (occurrence.operation.program settings) store := by
  refine ((occurrence.orderly lively.orderly (lively.offers owned)).both
    (Ensures.sameFlows occurrence.sparesFlows)).weaken fun _ later known => ?_
  exact lively.sameFlows known.2 known.1

theorem Operation.program_lively (operation : Operation) (has : operation.HasEngine)
    (lively : store.Lively) {register : Register} (owned : store.Owned register) :
    Ensures (fun _ later => later.Lively) (operation.program settings) store := by
  cases operation with
  | inbound message => exact (Occurrence.run (.inbound message)).lively lively owned
  | start organization request startedBy =>
      exact (Occurrence.run (.start organization request startedBy)).lively lively owned
  | resume conversation session node =>
      exact (Occurrence.run (.resume conversation session node)).lively lively owned
  | cancel organization conversation reason =>
      exact (Occurrence.cancel organization conversation reason).lively lively owned
  | cancelFlow flow reason =>
      refine silent_leaves ?_
      refine ((cancelFlowSessions_preserves flow reason store lively.orderly).both
        (Ensures.sameFlows (Event.cancelFlowSessions_sparesFlows flow reason []))).weaken
          fun _ later known => ?_
      exact lively.sameFlows known.2 known.1
  | poll =>
      refine silent_leaves ?_
      refine ((Timer.poll_preserves store lively.orderly).both
        (Ensures.sameFlows (Timer.poll_sparesFlows []))).weaken fun _ later known => ?_
      exact lively.sameFlows known.2 known.1
  | install flow => exact silent_preserves (createFlow_preserves flow) store lively
  | create organization editor request =>
      exact silent_preserves (Management.create_preserves fun _ => createFlow_preserves _) store
        lively
  | duplicate organization id editor =>
      exact silent_preserves (Management.duplicate_preserves createFlow_preserves organization id
        editor) store lively
  | saveCanvas organization id nodes edges editor =>
      exact silent_preserves (Management.saveCanvas_preserves saveVersion_preserves
        replaceGraph_preserves organization id nodes edges editor) store lively
  | restore organization id number editor =>
      exact silent_preserves (Management.restore_preserves saveVersion_preserves
        replaceGraph_preserves organization id number editor) store lively
  | update hasEngine organization id request =>
      cases has
      exact silent_leaves (Management.update_lively lively organization id request)
  | toggle hasEngine organization id =>
      cases has
      exact silent_leaves (Management.toggle_lively lively organization id)
  | delete hasEngine organization id =>
      cases has
      exact silent_leaves (Management.delete_lively lively organization id)

end

namespace Workplace

variable {ι : Type} {place : Workplace ι}

/-- However many events follow one upon the other, every active session is on a flow that stands, is
active, and belongs to the organization of the session; as long as the management of flows has the
engine. -/
theorem active_sessions_on_active_flows (serial : Serial Operation.HasEngine place) {id : String}
    {session : Session} (stands : place.scene.store.getSession id = some session)
    (active : session.isActive = true) :
    ∃ flow, place.scene.store.getFlow session.flow = some flow ∧ flow.isActive = true ∧
      flow.organization = session.organization := by
  have lively : place.scene.store.Lively :=
    serial.keeps Store.lively_empty fun _ operation _ _ has _ owned lively =>
      operation.program_lively has lively owned
  exact lively.orderly.placed stands active

/-- A session waits for its timer on a flow that may start sessions. -/
theorem active_sessions_on_active_flows_pausing : ∃ session flow,
    pausing.scene.store.getSession "session-0001" = some session ∧ session.isActive = true ∧
      pausing.scene.store.getFlow session.flow = some flow ∧ flow.isActive = true ∧
      flow.organization = session.organization := by
  have furnished : Serial Operation.HasEngine furnished :=
    Serial.carryingOut (.start default) (.install (pausingFlow 5)) trivial 1 (by decide)
      (by decide +kernel)
  have serial : Serial Operation.HasEngine pausing :=
    furnished.carryingOut manualStart.operation trivial 20 (by decide +kernel) (by decide +kernel)
  have row : (pausing.scene.store.getSession "session-0001").any (fun session =>
      session.isActive) = true := by decide +kernel
  obtain ⟨session, stands, active⟩ := (Option.any_eq_true _ _).mp row
  obtain ⟨flow, hosts⟩ := active_sessions_on_active_flows serial stands active
  exact ⟨session, flow, stands, active, hosts⟩

end Workplace

end ChatFlow

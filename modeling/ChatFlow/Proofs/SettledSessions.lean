import Mathlib.Logic.ExistsUnique
import ChatFlow.Proofs.ManagementSteps
import ChatFlow.Proofs.OrderlyEvents
import ChatFlow.Proofs.Remnants
/-
Events one after the other leave every session settled. After each of them every session that is
stored is in exactly one shape, and an event that has run or ended a session has reported of it what
is stored.
-/

set_option autoImplicit false

namespace ChatFlow

open Program EnginePast

section

variable {good : Home → Prop} {store : Store} {settings : EngineSettings}

theorem Occurrence.carries (occurrence : Occurrence) (orderly : store.Orderly good)
    (offers : store.Offers good) :
    Ensures (Carries good store) (occurrence.program settings) store := by
  cases occurrence with
  | run stimulus =>
      cases stimulus with
      | inbound message => exact Event.inbound_carries orderly offers message
      | start organization request startedBy =>
          exact Event.start_carries orderly offers organization request startedBy
      | resume conversation session node => exact Event.resume_carries orderly conversation session node
  | cancel organization conversation reason =>
      exact Event.cancel_carries orderly organization conversation reason

/-- What an event that reports has done is what its report says. -/
def CarriesOut (good : Home → Prop) (store : Store) :
    Except Fault (Option EventReport) → Store → Prop
  | .ok (some report), later => Carries good store (.ok report) later
  | .ok none, _ => False
  | .error fault, later => Carries good store (.error fault) later

theorem Occurrence.carriesOut (occurrence : Occurrence) (orderly : store.Orderly good)
    (offers : store.Offers good) :
    Ensures (CarriesOut good store) (occurrence.operation.program settings) store := by
  rw [occurrence.operation_program]
  exact (occurrence.carries orderly offers).bind (fun _ _ carries => Ensures.done carries)
    fun _ _ carries => carries

theorem Occurrence.orderly (occurrence : Occurrence) (orderly : store.Orderly good)
    (offers : store.Offers good) :
    Ensures (fun _ later => later.Orderly good) (occurrence.operation.program settings) store := by
  refine (occurrence.carriesOut orderly offers).weaken fun result later known => ?_
  match result, known with
  | .ok (some report), carries => exact @Carries.orderly good store (.ok report) later carries orderly
  | .error fault, carries => exact @Carries.orderly good store (.error fault) later carries orderly

theorem Operation.silent_preserves {α : Type} {holds : Store → Prop} {program : Engine α}
    (preserves : Preserves holds program) : Preserves holds (Operation.silent program) :=
  preserves.discard.bind fun _ => .done none

/-- A call that neither writes a session nor saves a timer job. -/
theorem calm_preserves {request : StoreCall} (calm : request.isCalm = true) :
    Preserves (Store.Orderly good) (Engine.store request) :=
  .ask fun _ stamp orderly => orderly.of_answer calm stamp

theorem cancelFlowSessions_preserves (flow reason : String) :
    Preserves (Store.Orderly good) (Event.cancelFlowSessions flow reason) := by
  intro store orderly
  refine (Event.cancelFlowSessions_ensures orderly flow reason).weaken ?_
  rintro (fault | count) later known
  · exact known.elim
  · exact known.mono fun _ => And.left

/-- Wherever sessions may live, every event leaves them in order. -/
theorem Operation.program_orderly (operation : Operation)
    (orderly : store.Orderly fun _ => True) (offers : store.Offers fun _ => True) :
    Ensures (fun _ later => later.Orderly fun _ => True) (operation.program settings) store := by
  have cancels := fun flow reason => @cancelFlowSessions_preserves (fun _ => True) flow reason
  cases operation with
  | inbound message => exact (Occurrence.run (.inbound message)).orderly orderly offers
  | start organization request startedBy =>
      exact (Occurrence.run (.start organization request startedBy)).orderly orderly offers
  | resume conversation session node =>
      exact (Occurrence.run (.resume conversation session node)).orderly orderly offers
  | cancel organization conversation reason =>
      exact (Occurrence.cancel organization conversation reason).orderly orderly offers
  | cancelFlow flow reason => exact silent_preserves (cancels flow reason) store orderly
  | poll => exact silent_preserves Timer.poll_preserves store orderly
  | install flow => exact silent_preserves (calm_preserves rfl) store orderly
  | create organization editor request =>
      exact silent_preserves (Management.create_preserves fun _ => calm_preserves rfl) store orderly
  | update hasEngine organization id request =>
      exact silent_preserves (Management.update_preserves cancels
        (fun _ _ _ _ => calm_preserves rfl) hasEngine organization id request) store orderly
  | toggle hasEngine organization id =>
      exact silent_preserves (Management.toggle_preserves cancels
        (fun _ _ _ _ => calm_preserves rfl) hasEngine organization id) store orderly
  | delete hasEngine organization id =>
      exact silent_preserves (Management.delete_preserves cancels
        (fun _ _ => calm_preserves rfl) hasEngine organization id) store orderly
  | saveCanvas organization id nodes edges editor =>
      exact silent_preserves (Management.saveCanvas_preserves (fun _ => calm_preserves rfl)
        (fun _ _ _ _ _ => calm_preserves rfl) organization id nodes edges editor) store orderly
  | duplicate organization id editor =>
      exact silent_preserves (Management.duplicate_preserves (fun _ => calm_preserves rfl)
        organization id editor) store orderly
  | restore organization id number editor =>
      exact silent_preserves (Management.restore_preserves (fun _ => calm_preserves rfl)
        (fun _ _ _ _ _ => calm_preserves rfl) organization id number editor) store orderly

end

namespace Workplace

variable {ι : Type} {may : Operation → Prop} {place : Workplace ι}

theorem offers_of_owned {store : Store} {register : Register} (owned : store.Owned register) :
    store.Offers fun _ => True :=
  ⟨fun member => (owned.flows member).1, fun _ _ _ => trivial⟩

theorem Serial.orderly (serial : Serial may place) :
    place.scene.store.Orderly fun _ => True :=
  serial.keeps Store.orderly_empty fun _ operation _ _ _ _ owned orderly =>
    operation.program_orderly orderly (offers_of_owned owned)

/-- However many events follow one upon the other, whatever the flows are and the services around do,
after each of them every stored session is in exactly one shape, and none is running. An event that
runs or ends a session reports of it as it is stored then, and writes no other session, but for one
that a manual start replaces; any other event that could report leaves the store as it was. -/
theorem sessions_settled_between_events (serial : Serial may place) :
    (∀ id row, place.scene.store.getSession id = some row →
      (∃! shape, row.HasShape place.scene.store.delays shape) ∧ row.status ≠ .running) ∧
    ∀ (occurrence : Occurrence) after index settings result,
      Performs place after index settings occurrence.operation result →
      match result with
      | .ok (some report) => report.Accounts place.scene.store after.scene.store ∨
          after.scene.store = place.scene.store ∧ report.IsQuiet
      | .ok none => False
      | .error _ => after.scene.store = place.scene.store := by
  have orderly := serial.orderly
  constructor
  · intro id row stands
    obtain ⟨shape, has⟩ := orderly.shaped stands
    refine ⟨⟨shape, has, fun other has' => ?_⟩, fun running => ?_⟩
    · exact Option.some.inj (has'.shape?.symm.trans has.shape?)
    · have none_ := has.shape?
      rw [running] at none_
      cases none_
  · intro occurrence after index settings result performs
    obtain ⟨register, registered⟩ := serial.reached.registered
    have offers := offers_of_owned registered.owned
    have carries := performs.ensured (occurrence.carriesOut orderly offers)
    match result, carries with
    | .ok (some report), carries => exact carries.imp And.right id
    | .error fault, same => exact same

/-! ### A session that waits for its timer -/

def furnished : Workplace Unit := (emptyPlace Unit).carryingOut (.install (pausingFlow 5)) 1

def manualStart : Occurrence :=
  .run (.start "org_1" ⟨"flow-0001", "conv_1", none, none, none, []⟩ none)

/-- The flow was started by hand, and pauses. -/
def pausing : Workplace Unit := furnished.carryingOut manualStart.operation 20

theorem furnished_serial : Serial (fun _ => True) furnished :=
  Serial.carryingOut (.start default) _ trivial 1 (by decide) (by decide +kernel)

theorem sessions_settled_between_events_pausing :
    (∃ row shape, pausing.scene.store.getSession "session-0001" = some row ∧
      row.HasShape pausing.scene.store.delays shape) ∧
    ∃ report : EventReport, report.Accounts furnished.scene.store pausing.scene.store := by
  have finished : decide (pausing.worker ()).IsIdle = true := by decide +kernel
  have serial : Serial (fun _ => True) pausing :=
    furnished_serial.carryingOut _ trivial 20 (by decide +kernel) finished
  have stored : (pausing.scene.store.getSession "session-0001").isSome = true := by decide +kernel
  have new : (furnished.scene.store.getSession "session-0001").isNone = true := by decide +kernel
  obtain ⟨row, stands⟩ := Option.isSome_iff_exists.mp stored
  have absent := Option.isNone_iff_eq_none.mp new
  obtain ⟨shape, has, _⟩ := ((sessions_settled_between_events serial).1 _ row stands).1
  refine ⟨⟨row, shape, stands, has⟩, ?_⟩
  obtain ⟨result, performs⟩ := performs_carryingOut furnished manualStart.operation 20
    (by decide +kernel) finished
  have told := (sessions_settled_between_events furnished_serial).2 manualStart _ _ _ _ performs
  have changed : pausing.scene.store ≠ furnished.scene.store := by
    intro same
    rw [same, absent] at stands
    cases stands
  match result, told with
  | .ok (some report), told => exact ⟨report, told.resolve_right fun quiet => changed quiet.1⟩
  | .error fault, same => exact absurd same changed

end Workplace

end ChatFlow

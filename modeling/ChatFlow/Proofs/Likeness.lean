import ChatFlow.Proofs.LoneEvents
import ChatFlow.Proofs.LoneEvents
import ChatFlow.Proofs.StoreFrame
/-
Stores that a message cannot tell apart. Stores with the same flows, the same sessions and the same
index may differ in their timer jobs, their versions and their logs: an attempt at handling a message
comes to the same end at both, and leaves stores that are alike again.
-/

set_option autoImplicit false

namespace ChatFlow

open Program

/-! ### Alike stores -/

/-- Two stores have the same flows and sessions, and name their next session alike. -/
structure Store.Alike (store other : Store) : Prop where
  flows : other.flows = store.flows
  sessions : other.sessions = store.sessions
  active : other.active = store.active
  count : other.counts.sessions = store.counts.sessions

/-- Whether the answer to a call depends on the flows and the sessions of a store only. -/
def StoreCall.isShared : StoreCall → Bool
  | .getFlow _ | .getOwnedFlow .. | .triggerCandidates _ | .activeSession _ | .getSession _
  | .createSession _ | .updateSession .. | .saveLogs _ => true
  | _ => false

/-- Whether a call leaves the flows and the sessions of a store as they are. -/
def StoreCall.isMild : StoreCall → Bool
  | .getFlow _ | .getOwnedFlow .. | .triggerCandidates _ | .activeSession _ | .getSession _
  | .saveDelay _ | .markSessionDelays _ | .saveLogs _ => true
  | _ => false

def Call.isShared : Call → Bool
  | .store request => request.isShared
  | _ => true

def Call.isMild : Call → Bool
  | .store request => request.isMild
  | _ => true

theorem Call.isShared_of_apart {request : Call} (apart : request.isStore = false) :
    request.isShared = true := by
  cases request with
  | store => cases apart
  | _ => rfl

theorem Call.isMild_of_apart {request : Call} (apart : request.isStore = false) :
    request.isMild = true := by
  cases request with
  | store => cases apart
  | _ => rfl

theorem StoreCall.isMild_keepsSessions {request : StoreCall} (mild : request.isMild = true) :
    (Call.store request).writesSession = false := by
  cases request with
  | createSession | updateSession => cases mild
  | _ => rfl

namespace Store.Alike

variable {store other : Store}

theorem refl (store : Store) : store.Alike store := ⟨rfl, rfl, rfl, rfl⟩

theorem symm (alike : store.Alike other) : other.Alike store :=
  ⟨alike.flows.symm, alike.sessions.symm, alike.active.symm, alike.count.symm⟩

theorem trans {last : Store} (lower : store.Alike other) (upper : other.Alike last) :
    store.Alike last :=
  ⟨upper.flows.trans lower.flows, upper.sessions.trans lower.sessions,
    upper.active.trans lower.active, upper.count.trans lower.count⟩

theorem getSession (alike : store.Alike other) (id : String) :
    other.getSession id = store.getSession id :=
  congrArg (Table.lookup? id) alike.sessions

theorem activeSession (alike : store.Alike other) (conversation : String) :
    other.activeSession conversation = store.activeSession conversation := by
  unfold Store.activeSession Store.getSession
  rw [alike.active, alike.sessions]

theorem saveLogs (entries : List LogEntry) (store : Store) :
    store.Alike (store.saveLogs entries) := by
  unfold Store.saveLogs
  induction entries generalizing store with
  | nil => exact refl store
  | cons entry rest ih =>
      have first : store.Alike (appendLog store entry) := ⟨rfl, rfl, rfl, rfl⟩
      exact first.trans (ih _)

theorem of_mild {request : StoreCall} (mild : request.isMild = true) (now : Stamp) (store : Store) :
    store.Alike (store.answer now request).2 := by
  cases request with
  | saveLogs entries => exact saveLogs entries store
  | getFlow | getOwnedFlow | triggerCandidates | activeSession | getSession | saveDelay
  | markSessionDelays => exact ⟨rfl, rfl, rfl, rfl⟩
  | _ => cases mild

/-- Alike stores answer alike, and stay alike. -/
theorem answer {request : StoreCall} (alike : store.Alike other) (shared : request.isShared = true)
    (now : Stamp) :
    (other.answer now request).1 = (store.answer now request).1 ∧
      (store.answer now request).2.Alike (other.answer now request).2 := by
  cases request with
  | getFlow id => exact ⟨congrArg Except.ok (congrArg (Table.lookup? id) alike.flows), alike⟩
  | getOwnedFlow organization id =>
      refine ⟨?_, alike⟩
      show Except.ok (other.getOwnedFlow organization id) = .ok (store.getOwnedFlow organization id)
      unfold Store.getOwnedFlow Store.getFlow
      rw [alike.flows]
  | triggerCandidates organization =>
      refine ⟨?_, alike⟩
      show other.triggerCandidates organization = store.triggerCandidates organization
      unfold Store.triggerCandidates
      rw [alike.flows]
  | activeSession conversation =>
      exact ⟨congrArg Except.ok (alike.activeSession conversation), alike⟩
  | getSession id => exact ⟨congrArg Except.ok (alike.getSession id), alike⟩
  | saveLogs entries =>
      exact ⟨rfl, ((saveLogs entries store).symm.trans alike).trans (saveLogs entries other)⟩
  | createSession session =>
      show (Store.changing other (other.createSession session)).1 =
          (Store.changing store (store.createSession session)).1 ∧
        (Store.changing store (store.createSession session)).2.Alike
          (Store.changing other (other.createSession session)).2
      unfold Store.createSession
      rw [alike.active, alike.sessions, alike.count]
      split
      · exact ⟨rfl, alike⟩
      · exact ⟨rfl, alike.flows, rfl, rfl, rfl⟩
  | updateSession session expected =>
      show (Store.changing other (other.updateSession session expected now)).1 =
          (Store.changing store (store.updateSession session expected now)).1 ∧
        (Store.changing store (store.updateSession session expected now)).2.Alike
          (Store.changing other (other.updateSession session expected now)).2
      unfold Store.updateSession Store.getSession
      rw [alike.active, alike.sessions]
      dsimp only
      split
      · exact ⟨rfl, alike⟩
      · split
        · exact ⟨rfl, alike⟩
        · split
          · exact ⟨rfl, alike⟩
          · exact ⟨rfl, alike.flows, rfl, rfl, alike.count⟩
  | _ => cases shared

end Store.Alike

/-! ### Programs that leave flows and sessions as they are -/

/-- A program that leaves the flows and the sessions of a store as they are. -/
abbrev KeepsMild {α : Type} (program : Engine α) : Prop :=
  Makes (fun request => request.isMild = true) program

theorem mild_store {request : StoreCall} (mild : request.isMild = true) :
    KeepsMild (Engine.store request) :=
  .store mild

theorem mild_unused {request : StoreCall} (mild : request.isMild = true) :
    KeepsMild (discard (Engine.store request)) :=
  (mild_store mild).discarded

theorem flush_mild (rows : List LogEntry) : KeepsMild (Engine.flush rows) :=
  Engine.flush_makes rfl

/-- Nothing was written but timer jobs and logs, and no write of a session was tried. -/
structure Solo.Spared (solo after : Solo) : Prop where
  alike : solo.store.Alike after.store
  sound : solo.store.WellFormed → after.store.WellFormed
  clash : after.clash = solo.clash
  before : after.before = solo.before

theorem Solo.Spared.refl (solo : Solo) : solo.Spared solo := ⟨.refl _, id, rfl, rfl⟩

theorem Solo.Spared.trans {solo middle after : Solo} (lower : solo.Spared middle)
    (upper : middle.Spared after) : solo.Spared after :=
  ⟨lower.alike.trans upper.alike, fun sound => upper.sound (lower.sound sound),
    upper.clash.trans lower.clash, upper.before.trans lower.before⟩

namespace Surroundings

variable {around : Surroundings} {α β : Type} {solo other : Solo}

theorem answer_mild {request : StoreCall} (mild : request.isMild = true) (solo : Solo) :
    around.answer (.store request) solo =
      ((solo.store.answer around.time request).1,
        solo.after request (solo.store.answer around.time request).2) := by
  have unmet : ¬solo.isMet request = true := by
    unfold Solo.isMet
    rw [StoreCall.isMild_keepsSessions mild]
    exact Bool.false_ne_true
  exact if_neg unmet

theorem answer_spared {request : Call} (mild : request.isMild = true) (solo : Solo) :
    solo.Spared (around.answer request solo).2 := by
  cases request with
  | store request =>
      have reads := StoreCall.isMild_keepsSessions mild
      rw [answer_mild mild]
      unfold Solo.after
      rw [reads]
      refine ⟨.of_mild mild around.time solo.store, fun sound => ?_, rfl, rfl⟩
      refine sound.answer ?_ around.time
      cases request with
      | updateSession => cases mild
      | _ => trivial
  | clock | complete | http | history | deliver | sleep => exact ⟨.refl _, id, rfl, rfl⟩

theorem carryOut_spared {program : Engine α} (mild : KeepsMild program) (solo : Solo) :
    solo.Spared (around.carryOut program solo).2 := by
  have going (program : Engine α) (past : EnginePast)
      (keeps : Keeps (fun _ request => Call.isMild request = true) program past) (solo : Solo) :
      solo.Spared (around.carryOut program solo).2 := by
    induction program generalizing past solo with
    | done value => exact .refl solo
    | fail fault => exact .refl solo
    | call request next ih =>
        obtain ⟨first, rest⟩ := keeps.at_call
        exact (answer_spared first solo).trans (ih _ _ (rest _) _)
  exact going program [] (mild.keeps []) solo

theorem carryOut_read {request : StoreCall} (mild : request.isMild = true) (solo : Solo) :
    around.carryOut (Engine.store request) solo =
      ((solo.store.answer around.time request).1,
        solo.after request (solo.store.answer around.time request).2) :=
  (@run_perform _ _ _ around.answer (.store request) solo).trans (answer_mild mild solo)

theorem carryOut_unused {request : StoreCall} (mild : request.isMild = true)
    (answers : ∃ value, (solo.store.answer around.time request).1 = .ok value) :
    around.carryOut (discard (Engine.store request)) solo =
      (.ok (), solo.after request (solo.store.answer around.time request).2) := by
  obtain ⟨value, told⟩ := answers
  have asked : around.carryOut (Engine.store request) solo = _ := carryOut_read mild solo
  rw [told] at asked
  exact carryOut_bind asked

end Surroundings

/-! ### Programs that come to the same end -/

/-- Two lone events stand at alike stores, have asked the same, and meet no other writer any more. -/
structure Solo.Twin (solo other : Solo) : Prop where
  alike : solo.store.Alike other.store
  asked : other.asked = solo.asked
  clear : solo.clash = none
  clear' : other.clash = none

/-- A program comes to the same result for twins, and leaves twins. -/
structure Congruent (around : Surroundings) {α : Type} (program : Engine α) : Prop where
  twins : ∀ {solo other : Solo}, solo.Twin other →
    (around.carryOut program other).1 = (around.carryOut program solo).1 ∧
      (around.carryOut program solo).2.Twin (around.carryOut program other).2

namespace Congruent

open Surroundings

variable {around : Surroundings} {α β : Type} {solo other : Solo}

theorem done (value : α) : Congruent around (pure value : Engine α) := ⟨fun twin => ⟨rfl, twin⟩⟩

theorem fail (fault : Fault) : Congruent around (.fail fault : Engine α) :=
  ⟨fun twin => ⟨rfl, twin⟩⟩

theorem ofExcept (given : Except Fault α) : Congruent around (Program.ofExcept given) := by
  cases given with
  | ok value => exact done value
  | error fault => exact fail fault

theorem bind {first : Engine β} {next : β → Engine α} (start : Congruent around first)
    (rest : ∀ value, Congruent around (next value)) : Congruent around (first >>= next) := by
  constructor
  intro solo other twin
  obtain ⟨same, after⟩ := start.twins twin
  cases ran : around.carryOut first solo with
  | mk result later =>
      cases ran' : around.carryOut first other with
      | mk result' later' =>
          rw [ran, ran'] at same after
          cases same
          cases result with
          | ok value =>
              rw [carryOut_bind ran, carryOut_bind ran']
              exact (rest value).twins after
          | error fault =>
              rw [carryOut_bind_error ran, carryOut_bind_error ran']
              exact ⟨rfl, after⟩

theorem outcome {program : Engine α} (congruent : Congruent around program) :
    Congruent around (Program.outcome program) := by
  constructor
  intro solo other twin
  obtain ⟨same, after⟩ := congruent.twins twin
  unfold carryOut at *
  rw [run_outcome, run_outcome, same]
  exact ⟨rfl, after⟩

theorem answer {request : Call} (shared : request.isShared = true) (twin : solo.Twin other) :
    (around.answer request other).1 = (around.answer request solo).1 ∧
      (around.answer request solo).2.Twin (around.answer request other).2 := by
  cases request with
  | store request =>
      obtain ⟨same, alike⟩ := twin.alike.answer shared around.time
      have unmet : ¬solo.isMet request = true := by simp [Solo.isMet, twin.clear]
      have unmet' : ¬other.isMet request = true := by simp [Solo.isMet, twin.clear']
      have told : around.answer (.store request) solo = _ := if_neg unmet
      have told' : around.answer (.store request) other = _ := if_neg unmet'
      rw [told, told']
      refine ⟨same, alike, ?_, ?_, ?_⟩
      · simp [Solo.after, twin.asked]
      · simp [Solo.after, twin.clear]
      · simp [Solo.after, twin.clear']
  | clock => exact ⟨rfl, twin⟩
  | complete | http | history | deliver | sleep =>
      unfold Surroundings.answer serve
      dsimp only
      rw [twin.asked]
      exact ⟨rfl, twin.alike, rfl, twin.clear, twin.clear'⟩

theorem of_makes {program : Engine α} (shared : Makes (fun request => request.isShared = true) program) :
    Congruent around program := by
  have going (program : Engine α) (past : EnginePast)
      (keeps : Keeps (fun _ request => Call.isShared request = true) program past) :
      Congruent around program := by
    induction program generalizing past with
    | done value => exact done value
    | fail fault => exact fail fault
    | call request next ih =>
        obtain ⟨first, rest⟩ := keeps.at_call
        constructor
        intro solo other twin
        obtain ⟨same, after⟩ := answer first twin
        show (around.carryOut (next (around.answer request other).1) _).1 = _ ∧
          Solo.Twin _ (around.carryOut (next (around.answer request other).1) _).2
        rw [same]
        exact (ih _ _ (rest _)).twins after
  exact going program [] (shared.keeps [])

/-- A timer job may get another identifier, but nobody asks for it. -/
theorem unused {request : StoreCall} (mild : request.isMild = true)
    (answers : ∀ store : Store, ∃ value, (store.answer around.time request).1 = .ok value) :
    Congruent around (discard (Engine.store request)) := by
  constructor
  intro solo other twin
  rw [carryOut_unused mild (answers _), carryOut_unused mild (answers _)]
  have left := (Store.Alike.of_mild mild around.time solo.store).symm
  have right := Store.Alike.of_mild mild around.time other.store
  refine ⟨rfl, (left.trans twin.alike).trans right, ?_, ?_, ?_⟩
  · simp [Solo.after, twin.asked]
  · simp [Solo.after, twin.clear]
  · simp [Solo.after, twin.clear']

end Congruent

/-! ### Attempts at handling a message -/

theorem Effect.dispatchAll_apart (organization conversation : String) (effects : List Effect) :
    Makes (fun request => request.isStore = false)
      (dispatchAll organization conversation effects) :=
  dispatchAll_makes (fun _ => rfl) (fun _ => rfl) organization conversation effects

namespace Run

variable {around : Surroundings} {settings : EngineSettings}

theorem decide_apart (flow : Option Flow) (session : Session) (inboundText : Option String)
    (isResume : Bool) :
    Makes (fun request => request.isStore = false)
      (decide settings flow session inboundText isResume) :=
  ⟨fun past => (decide_follows flow inboundText isResume past).keeps⟩

theorem commit_congruent (session : Session) (decision : Decision) (progress : Progress) :
    Congruent around (commit session decision progress) := by
  have shared {request : Call} (kind : request.isShared = true) :
      Congruent around (Program.perform request) := .of_makes (.perform kind)
  have marked (id : Option String) :
      Congruent around (discard (Engine.store (.markSessionDelays id))) :=
    .unused rfl fun store => ⟨_, rfl⟩
  unfold commit commit.finish
  refine Congruent.bind (shared rfl) fun now => ?_
  cases decision with
  | awaitInput kind => exact .bind (shared rfl) fun stored => .done _
  | suspend resumeAt =>
      refine Congruent.bind (.ofExcept _) fun job => ?_
      refine Congruent.bind (.unused rfl fun store => ⟨_, rfl⟩) fun _ => ?_
      exact .bind (shared rfl) fun stored => .done _
  | terminate outcome reason =>
      exact .bind (shared rfl) fun stored => .bind (marked _) fun _ => .done _
  | advance target handle =>
      exact .bind (shared rfl) fun stored => .bind (marked _) fun _ => .done _

theorem run_congruent (session : Session) (inboundText : Option String) (isResume : Bool)
    (flow : Option Flow) :
    Congruent around (run settings session inboundText isResume flow) := by
  have logged (rows : List LogEntry) : Congruent around (Engine.flush rows) :=
    .of_makes (Engine.flush_makes rfl)
  unfold run
  extract_lets proceed
  have going (flow : Option Flow) : Congruent around (proceed flow) := by
    have deciding : Congruent around (decide settings flow session inboundText isResume) :=
      .of_makes ((decide_apart flow session inboundText isResume).mono fun _ => Call.isShared_of_apart)
    refine Congruent.bind deciding fun decided => ?_
    refine Congruent.bind (commit_congruent _ _ _).outcome fun outcome => ?_
    cases outcome with
    | error fault => exact .bind (logged _) fun _ => .fail _
    | ok stored =>
        have sending := Effect.dispatchAll_apart session.organization session.conversation
          decided.2.effects
        refine Congruent.bind (.of_makes (sending.mono fun _ => Call.isShared_of_apart)) fun _ => ?_
        exact .bind (logged _) fun _ => .done _
  cases flow with
  | some flow => exact going (some flow)
  | none => exact .bind (.of_makes (.store rfl)) going

end Run

namespace Event

variable {around : Surroundings} {settings : EngineSettings}

theorem startSession_congruent (flow : Flow) (start : Opening) :
    Congruent around (startSession settings flow start) := by
  refine Congruent.bind (.of_makes (.now rfl)) fun now => ?_
  refine Congruent.bind (.ofExcept _) fun session => ?_
  refine Congruent.bind (.of_makes (.store rfl)) fun stored => ?_
  exact Run.run_congruent _ _ _ _

theorem endSession_congruent (session : Session) (status : SessionStatus) (reason : String) :
    Congruent around (endSession session status reason) := by
  refine Congruent.bind (.of_makes (.now rfl)) fun now => ?_
  refine Congruent.bind (.of_makes (.store rfl)) fun stored => ?_
  refine Congruent.bind (.unused rfl fun store => ⟨_, rfl⟩) fun _ => ?_
  exact .bind (.of_makes (Engine.flush_makes rfl)) fun _ => .done _

theorem flowFor_congruent (organization : String) (connection text : Option String) :
    Congruent around (Trigger.flowFor organization connection text) := by
  unfold Trigger.flowFor
  dsimp only
  split
  · exact .done _
  · exact .bind (.of_makes (.store rfl)) fun _ => .ofExcept _

theorem startTriggered_congruent (around : Surroundings) (settings : EngineSettings)
    (message : InboundMessage) :
    Congruent around (startTriggered settings message) := by
  refine Congruent.bind (flowFor_congruent _ _ _) fun flow => ?_
  cases flow with
  | none => exact .done _
  | some flow => exact startSession_congruent _ _

theorem handleOnSession_congruent (message : InboundMessage) (session : Session) :
    Congruent around (handleOnSession settings message session) := by
  unfold handleOnSession
  dsimp only
  split
  · exact .done _
  · split
    · refine Congruent.bind (.of_makes (.now rfl)) fun now => ?_
      split
      · exact .fail _
      · split
        · exact .done _
        · refine Congruent.bind ?_ fun _ => startTriggered_congruent _ _ message
          exact .bind (endSession_congruent _ _ _) fun _ => .done _
    · exact Run.run_congruent _ _ _ _
    · exact .done _

theorem handle_congruent (message : InboundMessage) (found : Option Session) :
    Congruent around (handle settings message found) := by
  cases found with
  | some session => exact handleOnSession_congruent message session
  | none => exact startTriggered_congruent _ _ message

theorem attempt_carriedOut (message : InboundMessage) (solo : Solo) :
    around.carryOut (attempt settings message) solo =
      around.carryOut (handle settings message (solo.store.activeSession message.conversation))
        { solo with asked := [] } := rfl

/-- An attempt begins from anew, so that only what the stores hold is of account. -/
theorem attempt_alike {solo other : Solo} (around : Surroundings) (settings : EngineSettings)
    (message : InboundMessage)
    (alike : solo.store.Alike other.store) (clear : solo.clash = none)
    (clear' : other.clash = none) :
    (around.carryOut (attempt settings message) other).1 =
        (around.carryOut (attempt settings message) solo).1 ∧
      (around.carryOut (attempt settings message) solo).2.Twin
        (around.carryOut (attempt settings message) other).2 := by
  rw [attempt_carriedOut, attempt_carriedOut, alike.activeSession]
  exact (handle_congruent message _).twins ⟨alike, rfl, clear, clear'⟩

end Event

end ChatFlow

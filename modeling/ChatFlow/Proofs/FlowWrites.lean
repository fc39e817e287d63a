import ChatFlow.Proofs.EventTenancy
import ChatFlow.Proofs.SerialEvents
/-
Conversations go on without a change of any flow. What messages, manual starts, timers and
cancellations ask of the store leaves the flows and their snapshots as they are; only the management
of flows writes them.
-/

set_option autoImplicit false

namespace ChatFlow

open Program EnginePast

/-! ### Operations that leave flows alone -/

def StoreCall.writesFlows : StoreCall → Bool
  | .createFlow _ | .updateFlow .. | .deleteFlow .. | .replaceGraph .. | .saveVersion _ => true
  | _ => false

def Call.writesFlows : Call → Bool
  | .store request => request.writesFlows
  | _ => false

namespace Store

/-- The flows and their snapshots are the same in two stores. -/
structure SameFlows (store later : Store) : Prop where
  flows : later.flows = store.flows
  versions : later.versions = store.versions
  flowCount : later.counts.flows = store.counts.flows

variable {store later : Store}

theorem SameFlows.refl (store : Store) : SameFlows store store := ⟨rfl, rfl, rfl⟩

theorem SameFlows.trans {middle : Store} (lower : SameFlows store middle)
    (upper : SameFlows middle later) : SameFlows store later where
  flows := upper.flows.trans lower.flows
  versions := upper.versions.trans lower.versions
  flowCount := upper.flowCount.trans lower.flowCount

theorem SameFlows.getFlow (same : SameFlows store later) (id : String) :
    later.getFlow id = store.getFlow id := by
  unfold Store.getFlow
  rw [same.flows]

theorem SameFlows.getVersion (same : SameFlows store later) (id : String) (number : Int) :
    later.getVersion id number = store.getVersion id number := by
  unfold Store.getVersion
  rw [same.versions]

theorem saveLogs_sameFlows (entries : List LogEntry) (store : Store) :
    SameFlows store (store.saveLogs entries) := by
  unfold saveLogs
  induction entries generalizing store with
  | nil => exact SameFlows.refl store
  | cons entry rest ih =>
      have added : SameFlows store (appendLog store entry) := ⟨rfl, rfl, rfl⟩
      exact added.trans (ih (appendLog store entry))

/-- An operation that writes no flows leaves them all as they are. -/
theorem answer_sameFlows {request : StoreCall} (spares : request.writesFlows = false) (now : Stamp)
    (store : Store) : SameFlows store (store.answer now request).2 := by
  cases request with
  | createFlow | updateFlow | deleteFlow | replaceGraph | saveVersion => cases spares
  | createSession =>
      refine changing_snd (SameFlows store) (SameFlows.refl store) fun stored later done => ?_
      unfold createSession at done
      split at done <;> cases done
      exact ⟨rfl, rfl, rfl⟩
  | updateSession =>
      refine changing_snd (SameFlows store) (SameFlows.refl store) fun stored later done => ?_
      unfold updateSession at done
      dsimp only at done
      repeat' split at done
      all_goals cases done
      all_goals exact ⟨rfl, rfl, rfl⟩
  | markDelay =>
      simp only [answer, changed, markDelay]
      split <;> exact ⟨rfl, rfl, rfl⟩
  | saveLogs entries => exact saveLogs_sameFlows entries store
  | saveDelay | markSessionDelays | deleteLogs => exact ⟨rfl, rfl, rfl⟩
  | getFlow | getOwnedFlow | flowsOf | triggerCandidates | versionsOf | getVersion | getSession
  | activeSession | activeSessionsOf | pendingDelays | getLogs => exact SameFlows.refl store

end Store

/-! ### Programs that leave flows alone -/

/-- A call that writes no flow, whatever was told before. -/
def SparesFlows (_past : EnginePast) (request : Call) : Prop := request.writesFlows = false

theorem sparesFlows_of_service (past : EnginePast) (request : Call)
    (service : request.isStore = false) : SparesFlows past request := by
  cases request with
  | store request => cases service
  | clock | complete | http | history | deliver | sleep => rfl

/-- A program that writes no flow leaves the flows as they are. -/
theorem Ensures.sameFlows {α : Type} {program : Engine α} {past : EnginePast} {store : Store}
    (keeps : Keeps SparesFlows program past) :
    Ensures (fun _ later => store.SameFlows later) program store := by
  refine Ensures.of_keeps keeps (.refl store) fun past middle time request reply later same spares
    answers => ?_
  rcases answers.effect with still | ⟨asked, stamp, rfl, changed⟩
  · rw [still]
    exact same
  · rw [changed]
    exact same.trans (Store.answer_sameFlows spares stamp middle)

section

variable {past : EnginePast} {settings : EngineSettings}

theorem asked_sparesFlows {request : Call} (spares : request.writesFlows = false) :
    Keeps SparesFlows (Program.perform request) past :=
  (Follows.perform spares).keeps

theorem flush_sparesFlows (rows : List LogEntry) (past : EnginePast) :
    Keeps SparesFlows (Engine.flush rows) past :=
  (flush_follows (show SparesFlows past (.store (.saveLogs rows)) from rfl)).keeps

namespace Run

theorem commit_sparesFlows (session : Session) (decision : Decision) (progress : Progress)
    (past : EnginePast) : Keeps SparesFlows (commit session decision progress) past := by
  have finished (outcome : Outcome) (reason : String) (now : Stamp) (later : EnginePast) :
      Keeps SparesFlows (commit.finish progress (placed session progress) outcome reason
        (TraceSubject.ofSession session) now) later := by
    unfold commit.finish
    refine (asked_sparesFlows rfl).andThen fun stored last _ _ => ?_
    exact (Keeps.discarded (asked_sparesFlows rfl)).andThen fun _ _ _ _ => Follows.done trivial
  unfold commit
  dsimp only
  refine (asked_sparesFlows rfl).andThen fun now later _ _ => ?_
  cases decision with
  | terminate outcome reason => exact finished outcome reason now later
  | advance target handle => exact finished .failed "" now later
  | awaitInput kind =>
      exact (asked_sparesFlows rfl).andThen fun _ _ _ _ => Follows.done trivial
  | suspend resumeAt =>
      refine ((SparesStore.given _).loosen sparesFlows_of_service later).andThen
        fun job last _ _ => ?_
      refine (Keeps.discarded (asked_sparesFlows rfl)).andThen fun _ after _ _ => ?_
      exact (asked_sparesFlows rfl).andThen fun _ _ _ _ => Follows.done trivial

theorem run_sparesFlows (session : Session) (inboundText : Option String) (isResume : Bool)
    (flow : Option Flow) (past : EnginePast) :
    Keeps SparesFlows (run settings session inboundText isResume flow) past := by
  unfold run
  extract_lets proceed
  have rest (flow : Option Flow) (later : EnginePast) : Keeps SparesFlows (proceed flow) later := by
    have decided := @decide_follows settings session flow inboundText isResume later
    refine (decided.loosen sparesFlows_of_service).andThen fun reached after _ _ => ?_
    obtain ⟨decision, progress⟩ := reached
    refine (commit_sparesFlows session decision progress after).outcome.andThen
      fun result last _ _ => ?_
    cases result with
    | error fault =>
        exact (flush_sparesFlows _ last).andThen fun _ _ _ _ => Follows.fail trivial
    | ok stored =>
        have dispatched := Effect.dispatchAll_always session.organization session.conversation
          progress.effects last
        refine (dispatched.loosen sparesFlows_of_service).andThen fun _ sent _ _ => ?_
        exact (flush_sparesFlows _ sent).andThen fun _ _ _ _ => Follows.done trivial
  cases flow with
  | some flow => exact rest (some flow) past
  | none => exact (asked_sparesFlows rfl).andThen fun flow later _ _ => rest flow later

end Run

namespace Event

theorem withRetry_sparesFlows {attempt : Engine EventReport}
    (keeps : ∀ later, Keeps SparesFlows attempt later) (past : EnginePast) :
    Keeps SparesFlows (withRetry attempt) past :=
  @withRetry_follows past _ (fun _ => True) _ _ (fun later _ _ => keeps later)
    (fun _ _ _ _ => ⟨trivial, trivial⟩) trivial

theorem startSession_sparesFlows (flow : Flow) (start : Opening) (past : EnginePast) :
    Keeps SparesFlows (startSession settings flow start) past := by
  unfold startSession
  refine (asked_sparesFlows rfl).andThen fun now later _ _ => ?_
  refine ((SparesStore.given _).loosen sparesFlows_of_service later).andThen
    fun session last _ _ => ?_
  exact (asked_sparesFlows rfl).andThen fun stored after _ _ =>
    Run.run_sparesFlows stored start.inboundText false (some flow) after

theorem endSession_sparesFlows (found : Session) (status : SessionStatus) (reason : String)
    (past : EnginePast) : Keeps SparesFlows (endSession found status reason) past := by
  unfold endSession
  refine (asked_sparesFlows rfl).andThen fun now later _ _ => ?_
  refine (asked_sparesFlows rfl).andThen fun stored last _ _ => ?_
  refine (Keeps.discarded (asked_sparesFlows rfl)).andThen fun _ after _ _ => ?_
  exact (flush_sparesFlows _ after).andThen fun _ _ _ _ => Follows.done trivial

theorem startTriggered_sparesFlows (message : InboundMessage) (past : EnginePast) :
    Keeps SparesFlows (startTriggered settings message) past := by
  have chosen : Keeps SparesFlows
      (Trigger.flowFor message.organization message.connection message.text) past := by
    unfold Trigger.flowFor
    dsimp only
    split
    · exact Follows.done trivial
    · exact (asked_sparesFlows rfl).andThen fun candidates later _ _ =>
        ((SparesStore.given _).loosen sparesFlows_of_service later)
  refine chosen.andThen fun found later _ _ => ?_
  cases found with
  | none => exact Follows.done trivial
  | some flow => exact startSession_sparesFlows flow _ later

theorem inbound_sparesFlows (message : InboundMessage) (past : EnginePast) :
    Keeps SparesFlows (inbound settings message) past := by
  refine withRetry_sparesFlows (fun later => ?_) past
  refine (asked_sparesFlows rfl).andThen fun found last _ _ => ?_
  cases found with
  | none => exact startTriggered_sparesFlows message last
  | some found =>
      dsimp only
      unfold handleOnSession
      dsimp only
      split
      · exact Follows.done trivial
      · split
        · refine (asked_sparesFlows rfl).andThen fun now after _ _ => ?_
          split
          · exact Follows.fail trivial
          · split
            · exact Follows.done trivial
            · exact (Keeps.discarded (endSession_sparesFlows found _ _ after)).andThen
                fun _ final _ _ => startTriggered_sparesFlows message final
        · exact Run.run_sparesFlows found message.text true none last
        · exact Follows.done trivial

theorem start_sparesFlows (organization : String) (request : StartRequest)
    (startedBy : Option String) (past : EnginePast) :
    Keeps SparesFlows (start settings organization request startedBy) past := by
  unfold start
  refine (asked_sparesFlows rfl).andThen fun found later _ _ => ?_
  cases found with
  | none => exact Follows.fail trivial
  | some flow =>
      dsimp only
      split
      · exact Follows.fail trivial
      · refine withRetry_sparesFlows (fun last => ?_) later
        refine (asked_sparesFlows rfl).andThen fun existing after _ _ => ?_
        cases existing with
        | none => exact startSession_sparesFlows flow _ after
        | some existing =>
            exact (Keeps.discarded (endSession_sparesFlows existing _ _ after)).andThen
              fun _ final _ _ => startSession_sparesFlows flow _ final

theorem resume_sparesFlows (conversation session node : String) (past : EnginePast) :
    Keeps SparesFlows (resume settings conversation session node) past := by
  have task : TimerTask SparesFlows (fun _ => True) (whenDone fun _ _ => True) settings
      conversation session node := {
    asks := fun _ => rfl
    looks := fun _ => rfl
    read := fun _ _ => trivial
    clocked := fun _ _ => trivial
    unread := trivial
    untimed := trivial
    idle := fun _ _ _ => trivial
    mixed := fun _ _ => trivial
    moves := fun {later found} _ _ _ _ _ => Run.run_sparesFlows found none true none later
    again := fun _ _ _ _ => ⟨trivial, trivial⟩ }
  exact task.follows trivial

theorem cancelReport_sparesFlows (found : Session) (reason : String) (past : EnginePast) :
    Keeps SparesFlows (cancelReport found reason) past :=
  (endSession_sparesFlows found .cancelled reason past).andThen fun _ _ _ _ => Follows.done trivial

theorem cancel_sparesFlows (organization conversation reason : String) (past : EnginePast) :
    Keeps SparesFlows (cancel organization conversation reason) past := by
  refine withRetry_sparesFlows (fun later => ?_) past
  have active : Keeps SparesFlows (activeSession organization conversation) later := by
    unfold activeSession
    refine (asked_sparesFlows rfl).andThen fun found last _ _ => ?_
    cases found with
    | none => exact Follows.fail trivial
    | some found =>
        dsimp only
        split
        · exact Follows.done trivial
        · exact Follows.fail trivial
  exact active.andThen fun found last _ _ => cancelReport_sparesFlows found reason last

theorem cancelFlowSessions_sparesFlows (flow reason : String) (past : EnginePast) :
    Keeps SparesFlows (cancelFlowSessions flow reason) past := by
  have one (candidate : Session) (later : EnginePast) :
      Keeps SparesFlows (cancelOnFlow flow reason candidate) later := by
    refine withRetry_sparesFlows (fun last => ?_) later
    dsimp only
    refine (asked_sparesFlows rfl).andThen fun found after _ _ => ?_
    cases found with
    | none => exact Follows.done trivial
    | some found =>
        dsimp only
        split
        · exact cancelReport_sparesFlows found reason after
        · exact Follows.done trivial
  have each (candidates : List Session) (later : EnginePast) :
      Keeps SparesFlows (cancelEach flow reason candidates) later := by
    induction candidates generalizing later with
    | nil => exact Follows.done trivial
    | cons candidate rest ih =>
        unfold cancelEach
        refine (one candidate later).andThen fun report last _ _ => ?_
        refine (ih last).andThen fun others after _ _ => ?_
        split <;> exact Follows.done trivial
  exact (asked_sparesFlows rfl).andThen fun candidates later _ _ => each candidates later

end Event

theorem Timer.poll_sparesFlows (past : EnginePast) : Keeps SparesFlows (poll settings) past := by
  have handled (job : Delay) (later : EnginePast) :
      Keeps SparesFlows (handle settings job) later := by
    unfold handle
    refine (Event.resume_sparesFlows job.conversation job.session job.node later).andThen
      fun report last _ _ => ?_
    split
    · exact Follows.done trivial
    · exact (Keeps.discarded (asked_sparesFlows rfl)).andThen fun _ _ _ _ => Follows.done trivial
  have each (jobs : List Delay) (later : EnginePast) :
      Keeps SparesFlows (handleEach settings jobs) later := by
    induction jobs generalizing later with
    | nil => exact Follows.done trivial
    | cons job rest ih =>
        unfold handleEach
        refine (handled job later).outcome.andThen fun result last _ _ => ?_
        refine (ih last).andThen fun others after _ _ => ?_
        split <;> exact Follows.done trivial
  unfold poll
  refine (asked_sparesFlows rfl).andThen fun now later _ _ => ?_
  exact (asked_sparesFlows rfl).andThen fun jobs last _ _ => each jobs last

end

end ChatFlow

import ChatFlow.Engine.Timer
import ChatFlow.Proofs.ManagementCalls
/-
Every event makes only calls that are warranted: messages, manual starts, timers, cancellations and
the management of flows.
-/

set_option autoImplicit false

namespace ChatFlow

open Program EnginePast

variable {past : EnginePast} {settings : EngineSettings}

namespace Event

/-! ### Trying twice -/

/-- A conflict is kept apart from the other failures. -/
def unlessConflictOf {α : Type} (good : EnginePast → Except Fault α → Prop) (past : EnginePast) :
    Except Fault (Option α) → Prop
  | .ok (some value) => good past (.ok value)
  | .ok none => ∃ fault : Fault, fault.isConflict = true ∧ good past (.error fault)
  | .error fault => good past (.error fault)

theorem unlessConflict_follows {α : Type} {rule : EnginePast → Call → Prop}
    {good : EnginePast → Except Fault α → Prop} {program : Engine α}
    (follows : Follows rule good program past) :
    Follows rule (unlessConflictOf good) (unlessConflict program) past := by
  unfold unlessConflict
  refine follows.outcome.bind (fun result later _ known => ?_) fun _ _ _ known => known.elim
  cases result with
  | ok value => exact Follows.done known
  | error fault =>
      dsimp only
      split
      · next conflict => exact Follows.done ⟨fault, conflict, known⟩
      · exact Follows.fail known

/-- What holds at the end of every attempt, and of the report that there was a conflict, holds at
the end of an event. A second attempt is made only after a conflict. -/
theorem withRetry_follows {rule : EnginePast → Call → Prop} {ready : EnginePast → Prop}
    {good : EnginePast → Except Fault EventReport → Prop} {attempt : Engine EventReport}
    (follows : ∀ later, past <:+ later → ready later → Follows rule good attempt later)
    (again : ∀ later fault, fault.isConflict = true → good later (.error fault) →
      ready later ∧ good later (.ok conflictReport))
    (start : ready past) : Follows rule good (withRetry attempt) past := by
  unfold withRetry
  refine (unlessConflict_follows (follows past (List.suffix_refl past) start)).bind
    (fun first later grown known => ?_) fun _ _ _ known => known
  cases first with
  | some report => exact Follows.done known
  | none =>
      obtain ⟨fault, conflict, known⟩ := known
      have ready := (again later fault conflict known).1
      refine (unlessConflict_follows (follows later grown ready)).bind
        (fun second last _ known => ?_) fun _ _ _ known => known
      cases second with
      | some report => exact Follows.done known
      | none =>
          obtain ⟨fault, conflict, known⟩ := known
          exact Follows.done (again last fault conflict known).2

theorem withRetry_keeps {attempt : Engine EventReport}
    (keeps : ∀ later, past <:+ later → Keeps Warranted attempt later) :
    Keeps Warranted (withRetry attempt) past :=
  @withRetry_follows past _ (fun _ => True) _ _ (fun later grown _ => keeps later grown)
    (fun _ _ _ _ => ⟨trivial, trivial⟩) trivial

/-! ### Starting and ending sessions -/

theorem newSession_ok {flow : Flow} {start : Opening} {now : Stamp} {session : Session}
    (made : newSession flow start now = .ok session) :
    session.isActive = true ∧ session.status = .running ∧ session.revision = 0 := by
  unfold newSession at made
  split at made
  · cases made
  · cases made
    exact ⟨rfl, rfl, rfl⟩

theorem startSession_keeps (flow : Flow) (start : Opening) (past : EnginePast) :
    Keeps Warranted (startSession settings flow start) past := by
  unfold startSession
  refine (now_follows past).andThen fun now later _ _ => ?_
  have made : Follows Warranted (fun _ result => newSession flow start now = result)
      (Program.ofExcept (newSession flow start now)) later := Follows.ofExcept rfl
  refine made.andThen fun session last _ built => ?_
  have creating : Warranted last (.store (.createSession session)) := newSession_ok built
  refine (told_follows creating).andThen fun stored after _ told => ?_
  exact (Run.run_follows (.made told) settings start.inboundText false (some flow)).keeps

/-- A session that was read may be ended as cancelled, and in any way where it was left running. -/
theorem endSession_keeps {found : Session} (saw : Saw past found) (status : SessionStatus)
    (fitting : status = .cancelled ∨ found.status = .running) (reason : String) :
    Keeps Warranted (endSession found status reason) past := by
  unfold endSession
  refine (now_follows past).andThen fun now later grown _ => ?_
  have rewrites : Rewrites later found (Run.ended found status reason now) found.revision := {
    saw := saw.grow grown
    id := rfl
    place := rfl
    revision := rfl
    armed := fun active => by cases active
    reason := Or.inr ⟨status, reason, now, rfl, fitting⟩ }
  refine (update_follows rewrites).andThen fun stored last _ told => ?_
  have closing : Warranted last (.store (.markSessionDelays stored.id)) :=
    ⟨_, _, stored, told, rfl, rfl⟩
  refine (discarded_keeps closing).andThen fun _ after _ _ => ?_
  refine Follows.andThen (flush_keeps fun row member started => ?_) fun _ _ _ _ =>
    Follows.done trivial
  rw [List.mem_singleton.mp member] at started
  cases started

/-! ### Messages -/

theorem flowFor_keeps (organization : String) (connection text : Option String)
    (past : EnginePast) : Keeps Warranted (Trigger.flowFor organization connection text) past := by
  unfold Trigger.flowFor
  dsimp only
  split
  · exact Follows.done trivial
  · have asking : Warranted past (.store (.triggerCandidates organization)) := trivial
    refine (store_follows asking).andThen fun candidates later _ _ => ?_
    exact (SparesStore.given _).warranted later

theorem startTriggered_keeps (message : InboundMessage) (past : EnginePast) :
    Keeps Warranted (startTriggered settings message) past := by
  unfold startTriggered
  refine (flowFor_keeps _ _ _ past).andThen fun flow later _ _ => ?_
  cases flow with
  | none => exact Follows.done trivial
  | some flow => exact startSession_keeps flow _ later

theorem handleOnSession_keeps (message : InboundMessage) {conversation : String} {found : Session}
    (told : Told past (.activeSession conversation) (some found)) :
    Keeps Warranted (handleOnSession settings message found) past := by
  unfold handleOnSession
  dsimp only
  split
  · exact Follows.done trivial
  · split
    · next running =>
        refine (now_follows past).andThen fun now later grown _ => ?_
        split
        · exact Follows.fail trivial
        · split
          · exact Follows.done trivial
          · have saw : Saw later found := .owner (told.grow grown)
            have ending := endSession_keeps saw .failed (Or.inr running) "stale_session"
            exact (Keeps.discarded ending).andThen fun _ last _ _ =>
              startTriggered_keeps message last
    · next waiting =>
        exact (Run.run_follows (.answered told waiting) settings message.text true none).keeps
    · exact Follows.done trivial

theorem inbound_keeps (message : InboundMessage) (past : EnginePast) :
    Keeps Warranted (inbound settings message) past := by
  refine withRetry_keeps fun later _ => ?_
  have asking : Warranted later (.store (.activeSession message.conversation)) := trivial
  refine (told_follows asking).andThen fun found last _ told => ?_
  cases found with
  | some found => exact handleOnSession_keeps message told
  | none => exact startTriggered_keeps message last

/-! ### Manual starts -/

theorem start_keeps (organization : String) (request : StartRequest) (startedBy : Option String)
    (past : EnginePast) : Keeps Warranted (start settings organization request startedBy) past := by
  unfold start
  have asking : Warranted past (.store (.getOwnedFlow organization request.flow)) := trivial
  refine (store_follows asking).andThen fun flow later _ _ => ?_
  cases flow with
  | none => exact Follows.fail trivial
  | some flow =>
      dsimp only
      split
      · exact Follows.fail trivial
      · refine withRetry_keeps fun last _ => ?_
        have looking : Warranted last (.store (.activeSession request.conversation)) := trivial
        refine (told_follows looking).andThen fun existing after _ told => ?_
        cases existing with
        | none => exact startSession_keeps flow _ after
        | some existing =>
            have ending := endSession_keeps (.owner told) .cancelled (Or.inl rfl) "replaced"
            exact (Keeps.discarded ending).andThen fun _ final _ _ =>
              startSession_keeps flow _ final

/-! ### Timers -/

/-- What is to be shown of a timer event: that it may ask what it asks, that what is asserted holds
where it leaves its session alone, and that it goes on well where the session may be run. -/
structure TimerTask (rule : EnginePast → Call → Prop) (ready : EnginePast → Prop)
    (good : EnginePast → Except Fault EventReport → Prop) (settings : EngineSettings)
    (conversation session node : String) : Prop where
  asks : ∀ {later}, ready later → rule later (.store (.getSession session))
  looks : ∀ {later}, ready later → rule later .clock
  read : ∀ {later} reply, ready later → ready (⟨.store (.getSession session), reply⟩ :: later)
  clocked : ∀ {later} reply, ready later → ready (⟨.clock, reply⟩ :: later)
  unread : ∀ {later fault}, good (⟨.store (.getSession session), .error fault⟩ :: later) (.error fault)
  untimed : ∀ {later fault}, good (⟨.clock, .error fault⟩ :: later) (.error fault)
  idle : ∀ {later report}, ready later → report.status = .ignored →
    Handled later conversation session node → good later (.ok report)
  mixed : ∀ {later found}, Told later (.getSession session) (some found) →
    found.WaitsAt conversation node → good later (.error .mixedClocks)
  moves : ∀ {later found}, ready later → Fresh later found →
    Told later (.getSession session) (some found) → found.WaitsAt conversation node →
    Movable later found → Follows rule good (Run.run settings found none true none) later
  again : ∀ later fault, fault.isConflict = true → good later (.error fault) →
    ready later ∧ good later (.ok conflictReport)

theorem TimerTask.follows {rule : EnginePast → Call → Prop} {ready : EnginePast → Prop}
    {good : EnginePast → Except Fault EventReport → Prop} {conversation session node : String}
    (task : TimerTask rule ready good settings conversation session node) (start : ready past) :
    Follows rule good (resume settings conversation session node) past := by
  refine withRetry_follows (fun later _ ready => ?_) task.again start
  refine (Follows.perform (task.asks ready)).bind (fun found last _ told => ?_)
    fun fault last _ told => told ▸ task.unread
  subst told
  have prepared := task.read (.ok found) ready
  have told : Told (⟨.store (.getSession session), .ok found⟩ :: later) (.getSession session) found :=
    List.mem_cons_self
  cases found with
  | none => exact Follows.done (task.idle prepared rfl (.missing told))
  | some found =>
      dsimp only
      split
      · next apart => exact Follows.done (task.idle prepared rfl (.elsewhere told (Or.inl apart)))
      · next place =>
          have place : found.conversation = conversation := Decidable.not_not.mp place
          split
          · next idle =>
              refine Follows.done (task.idle prepared rfl (.elsewhere told (Or.inr ?_)))
              rcases Bool.or_eq_true_iff.mp idle with inactive | other
              · exact Or.inl (by simpa using inactive)
              · exact Or.inr (Or.inl (of_decide_eq_true other))
          · next waiting =>
              have active : found.isActive = true ∧ found.status = .awaitingTimer := by
                simpa using waiting
              split
              · next apart =>
                  exact Follows.done
                    (task.idle prepared rfl (.elsewhere told (Or.inr (Or.inr (Or.inr apart)))))
              · next here =>
                  have waits : found.WaitsAt conversation node :=
                    ⟨active.1, active.2, place, Decidable.not_not.mp here⟩
                  split
                  · next unset =>
                      have fresh : Fresh (⟨.store (.getSession session), .ok (some found)⟩ :: later)
                          found := ⟨session, [], later, rfl, fun _ member => nomatch member⟩
                      refine task.moves prepared fresh told waits ?_
                      refine .due told active.1 active.2 fun resumeAt known => ?_
                      rw [unset] at known
                      cases known
                  · next resumeAt known =>
                      refine (Follows.perform (task.looks prepared)).bind
                        (fun now after grown shown => ?_)
                        fun fault after _ shown => shown ▸ task.untimed
                      subst shown
                      have ready := task.clocked (.ok now) prepared
                      have clocked : Clocked (⟨.clock, .ok now⟩ ::
                          ⟨.store (.getSession session), .ok (some found)⟩ :: later) now :=
                        List.mem_cons_self
                      split
                      · exact Follows.fail (task.mixed (told.grow grown) waits)
                      · next ahead =>
                          exact Follows.done
                            (task.idle ready rfl (.early (told.grow grown) known clocked ahead))
                      · next reached =>
                          have fresh : Fresh (⟨.clock, .ok now⟩ ::
                              ⟨.store (.getSession session), .ok (some found)⟩ :: later) found := by
                            refine ⟨session, [⟨.clock, .ok now⟩], later, rfl, ?_⟩
                            intro entry member
                            rw [List.mem_singleton.mp member]
                            rfl
                          refine task.moves ready fresh (told.grow grown) waits ?_
                          refine .due (told.grow grown) active.1 active.2 fun other same => ?_
                          rw [known] at same
                          cases same
                          exact ⟨now, clocked, reached⟩

/-- A timer event that meets no conflict has dealt with the jobs of its session and node. -/
theorem resume_follows (conversation session node : String) (past : EnginePast) :
    Follows Warranted
      (whenDone fun later report =>
        report.status ≠ .conflict → Handled later conversation session node)
      (resume settings conversation session node) past := by
  let good (later : EnginePast) (report : EventReport) : Prop :=
    report.status ≠ .conflict → Handled later conversation session node
  have task : TimerTask Warranted (fun _ => True) (whenDone good) settings conversation session
      node := {
    asks := fun _ => trivial
    looks := fun _ => trivial
    read := fun _ _ => trivial
    clocked := fun _ _ => trivial
    unread := trivial
    untimed := trivial
    idle := fun _ _ handled _ => handled
    mixed := fun _ _ => trivial
    moves := fun {later found} _ _ told _ movable => by
      refine (Run.run_follows movable settings none true none).weaken
        fun final result farther known => ?_
      cases result with
      | error fault => trivial
      | ok report => exact fun _ => .moved (told.grow farther) known.1
    again := fun _ _ _ _ => ⟨trivial, fun differs => absurd rfl differs⟩ }
  exact task.follows trivial

/-! ### Cancellation -/

theorem activeSession_follows (organization conversation : String) (past : EnginePast) :
    Follows Warranted (whenDone fun later found => Saw later found)
      (activeSession organization conversation) past := by
  unfold activeSession
  have asking : Warranted past (.store (.activeSession conversation)) := trivial
  refine (told_follows asking).andThen fun found later _ told => ?_
  cases found with
  | none => exact Follows.fail trivial
  | some found =>
      dsimp only
      split
      · exact Follows.done (.owner told)
      · exact Follows.fail trivial

theorem cancelReport_keeps {found : Session} (saw : Saw past found) (reason : String) :
    Keeps Warranted (cancelReport found reason) past :=
  (endSession_keeps saw .cancelled (Or.inl rfl) reason).andThen fun _ _ _ _ => Follows.done trivial

theorem cancel_keeps (organization conversation reason : String) (past : EnginePast) :
    Keeps Warranted (cancel organization conversation reason) past :=
  withRetry_keeps fun later _ =>
    (activeSession_follows organization conversation later).andThen fun _ _ _ saw =>
      cancelReport_keeps saw reason

theorem cancelOnFlow_keeps (flow reason : String) (candidate : Session) (past : EnginePast) :
    Keeps Warranted (cancelOnFlow flow reason candidate) past := by
  refine withRetry_keeps fun later _ => ?_
  dsimp only
  have asking : Warranted later (.store (.getSession (candidate.id.getD "None"))) := trivial
  refine (told_follows asking).andThen fun found last _ told => ?_
  cases found with
  | none => exact Follows.done trivial
  | some found =>
      dsimp only
      split
      · next here =>
          have active : found.isActive = true := by
            rw [Bool.and_eq_true] at here
            exact here.1
          exact cancelReport_keeps (.row told active) reason
      · exact Follows.done trivial

theorem cancelEach_keeps (flow reason : String) (candidates : List Session) (past : EnginePast) :
    Keeps Warranted (cancelEach flow reason candidates) past := by
  induction candidates generalizing past with
  | nil => exact Follows.done trivial
  | cons candidate rest ih =>
      unfold cancelEach
      refine (cancelOnFlow_keeps flow reason candidate past).andThen fun report later _ _ => ?_
      refine (ih later).andThen fun others last _ _ => ?_
      split <;> exact Follows.done trivial

theorem cancelFlowSessions_keeps (flow reason : String) (past : EnginePast) :
    Keeps Warranted (cancelFlowSessions flow reason) past := by
  have asking : Warranted past (.store (.activeSessionsOf flow)) := trivial
  exact (store_follows asking).andThen fun candidates later _ _ =>
    cancelEach_keeps flow reason candidates later

end Event

/-! ### Polling -/

namespace Timer

theorem handle_keeps {job : Delay} (listed : Listed past job) :
    Keeps Warranted (handle settings job) past := by
  unfold handle
  refine (Event.resume_follows job.conversation job.session job.node past).andThen fun report later grown known => ?_
  split
  · exact Follows.done trivial
  · next differs =>
      have marking : Warranted later (.store (.markDelay (job.id.getD "None"))) :=
        ⟨job, listed.grow grown, rfl, known differs⟩
      exact (discarded_keeps marking).andThen fun _ _ _ _ => Follows.done trivial

theorem handleEach_keeps {jobs : List Delay} (listed : ∀ job ∈ jobs, Listed past job) :
    Keeps Warranted (handleEach settings jobs) past := by
  induction jobs generalizing past with
  | nil => exact Follows.done trivial
  | cons job rest ih =>
      unfold handleEach
      refine (handle_keeps (listed job List.mem_cons_self)).outcome.andThen
        fun handled later grown _ => ?_
      have others : ∀ other ∈ rest, Listed later other := fun other member =>
        (listed other (List.mem_cons_of_mem job member)).grow grown
      refine (ih others).andThen fun count last _ _ => ?_
      split <;> exact Follows.done trivial

theorem poll_keeps : Keeps Warranted (poll settings) [] := by
  unfold poll
  refine (now_follows []).andThen fun now later _ clocked => ?_
  subst clocked
  have asking : Warranted [⟨.clock, .ok now⟩] (.store (.pendingDelays now)) := rfl
  refine (told_follows asking).andThen fun jobs last _ told => ?_
  exact handleEach_keeps fun job member => ⟨now, jobs, told, member⟩

end Timer

/-! ### Management of flows -/

namespace Management

theorem shows_warranted (organization id : String) : Shows Warranted organization id :=
  ⟨fun _ => trivial, fun _ => trivial, fun _ _ => trivial⟩

theorem founds_warranted : Founds Warranted := fun _ _ _ => trivial

theorem saves_warranted (organization id : String) : Saves Warranted organization id :=
  ⟨fun _ _ _ _ _ => trivial, fun _ _ _ _ _ _ _ => trivial⟩

theorem releases_warranted (hasEngine : Bool) (organization id : String) :
    Releases Warranted hasEngine organization id := by
  intro past flow reason _
  unfold cancelSessions
  split
  · exact (Event.cancelFlowSessions_keeps id reason past).discarded
  · exact Follows.done trivial

end Management

end ChatFlow

import ChatFlow.Proofs.Likeness
/-
Lone events of which one write of a session meets another writer. Up to that write they go the way of
the events that meet nobody. A run and the ending of a session try one write: where it is refused they
fail by a conflict, and flows and sessions are as they were; where no write is refused a run stores its
decision, and no session is left running on its conversation.
-/

set_option autoImplicit false

namespace ChatFlow

open Program

variable {around : Surroundings} {α β : Type} {solo : Solo}

/-! ### The way to the write that is refused -/

/-- Nobody is met. -/
def Solo.calmed (solo : Solo) : Solo := { solo with clash := none, before := [] }

namespace Surroundings

theorem answer_unmet {request : StoreCall} (unmet : solo.isMet request = false) :
    around.answer (.store request) solo =
      ((solo.store.answer around.time request).1,
        solo.after request (solo.store.answer around.time request).2) :=
  if_neg (by rw [unmet]; exact Bool.false_ne_true)

theorem answer_met {request : StoreCall} (met : solo.isMet request = true) :
    around.answer (.store request) solo =
      (.error (.conflict around.cause), { solo with clash := none }) :=
  if_pos met

/-- Who has met the other writer meets nobody any more. -/
theorem answer_clear (around : Surroundings) (clear : solo.clash = none) (request : Call) :
    (around.answer request solo).2.clash = none ∧
      (around.answer request solo).2.before = solo.before := by
  cases request with
  | store request =>
      rw [answer_unmet (by simp [Solo.isMet, clear])]
      simp [Solo.after, clear]
  | clock | complete | http | history | deliver | sleep => exact ⟨clear, rfl⟩

theorem carryOut_clear (around : Surroundings) (clear : solo.clash = none) (program : Engine α) :
    (around.carryOut program solo).2.clash = none ∧
      (around.carryOut program solo).2.before = solo.before := by
  induction program generalizing solo with
  | done value => exact ⟨clear, rfl⟩
  | fail fault => exact ⟨clear, rfl⟩
  | call request next ih =>
      obtain ⟨still, same⟩ := around.answer_clear clear request
      obtain ⟨last, kept⟩ := ih _ still
      exact ⟨last, kept.trans same⟩

theorem answer_calmed {request : Call}
    (unmet : (around.answer request solo).2.clash.isSome = true) :
    around.answer request solo.calmed =
      ((around.answer request solo).1, (around.answer request solo).2.calmed) := by
  cases request with
  | store request =>
      cases met : solo.isMet request with
      | true =>
          rw [answer_met met] at unmet
          cases unmet
      | false =>
          have clear : solo.calmed.isMet request = false := by simp [Solo.isMet, Solo.calmed]
          rw [answer_unmet met, answer_unmet clear]
          refine Prod.ext rfl ?_
          simp [Solo.after, Solo.calmed]
  | clock | complete | http | history | deliver | sleep => rfl

/-- A program that has met nobody has come to what it comes to where there is nobody to meet. -/
theorem carryOut_calmed {program : Engine α}
    (unmet : (around.carryOut program solo).2.clash.isSome = true) :
    around.carryOut program solo.calmed =
      ((around.carryOut program solo).1, (around.carryOut program solo).2.calmed) := by
  induction program generalizing solo with
  | done value => rfl
  | fail fault => rfl
  | call request next ih =>
      have first : (around.answer request solo).2.clash.isSome = true := by
        cases ahead : (around.answer request solo).2.clash with
        | some count => rfl
        | none =>
            have never : (around.carryOut (.call request next) solo).2.clash = none :=
              (around.carryOut_clear ahead (next (around.answer request solo).1)).1
            rw [never] at unmet
            cases unmet
      have told := answer_calmed first
      show around.carryOut (next (around.answer request solo.calmed).1)
        (around.answer request solo.calmed).2 = _
      rw [told]
      exact ih _ unmet

end Surroundings

open Surroundings

/-! ### Programs that try one write -/

/-- How a program fares that tries one write of a session at most, while one write is to meet another
writer: it has not met it, or this was its own write, and it has failed and left no trace of it. -/
inductive Fares (around : Surroundings) (solo : Solo) (ended : Except Fault α × Solo) : Prop where
  | unmet (ahead : ended.2.clash.isSome = true)
  | refused (failed : ended.1 = .error (.conflict around.cause))
      (alike : solo.store.Alike ended.2.store) (clear : ended.2.clash = none)
      (before : ended.2.before = solo.before)

namespace Fares

theorem after_mild {first : Engine β} {next : β → Engine α}
    (mild : KeepsMild first) (ahead : solo.clash.isSome = true)
    (rest : ∀ value later, later.clash.isSome = true →
      Fares around later (around.carryOut (next value) later)) :
    Fares around solo (around.carryOut (first >>= next) solo) := by
  have spared : solo.Spared (around.carryOut first solo).2 := carryOut_spared mild solo
  cases ran : around.carryOut first solo with
  | mk result later =>
      rw [ran] at spared
      have still : later.clash.isSome = true := by
        rw [spared.clash]
        exact ahead
      cases result with
      | error fault =>
          rw [carryOut_bind_error ran]
          exact .unmet still
      | ok value =>
          rw [carryOut_bind ran]
          cases rest value later still with
          | unmet ahead => exact .unmet ahead
          | refused failed alike clear before =>
              exact .refused failed (spared.alike.trans alike) clear (before.trans spared.before)

theorem write {request : StoreCall} {next : request.Answer → Engine α}
    (writes : (Call.store request).writesSession = true)
    (mild : ∀ value, KeepsMild (next value))
    (ahead : solo.clash.isSome = true) :
    Fares around solo (around.carryOut (Engine.store request >>= next) solo) := by
  cases met : solo.isMet request with
  | true =>
      rw [carryOut_store_error (answer_met met)]
      exact .refused rfl (.refl _) rfl rfl
  | false =>
      have told : around.answer _ solo = _ := answer_unmet met
      have still : (solo.after request (solo.store.answer around.time request).2).clash.isSome =
          true := by
        unfold Solo.after
        dsimp only
        rw [if_pos writes, Option.isSome_map]
        exact ahead
      cases answered : (solo.store.answer around.time request).1 with
      | ok value =>
          rw [answered] at told
          rw [carryOut_store told]
          refine .unmet ?_
          rw [(carryOut_spared (mild value) _).clash]
          exact still
      | error fault =>
          rw [answered] at told
          rw [carryOut_store_error told]
          exact .unmet still

/-- What is done with the outcome of a program writes no session, and fails where that has failed. -/
theorem outcome {program : Engine β} {next : Except Fault β → Engine α}
    (fares : Fares around solo (around.carryOut program solo))
    (mild : ∀ result, KeepsMild (next result))
    (fails : ∀ fault later, (around.carryOut (next (.error fault)) later).1 = .error fault) :
    Fares around solo (around.carryOut (Program.outcome program >>= next) solo) := by
  have tried : around.carryOut (Program.outcome program) solo =
      (.ok (around.carryOut program solo).1, (around.carryOut program solo).2) := run_outcome _ _
  rw [carryOut_bind tried]
  have spared : Solo.Spared _ (around.carryOut (next (around.carryOut program solo).1) _).2 :=
    carryOut_spared (mild _) (around.carryOut program solo).2
  cases fares with
  | unmet ahead =>
      refine .unmet ?_
      rw [spared.clash]
      exact ahead
  | refused failed alike clear before =>
      rw [failed] at spared ⊢
      exact .refused (fails _ _) (alike.trans spared.alike) (spared.clash.trans clear)
        (spared.before.trans before)

end Fares

/-- A program comes to a value, and the value and what is left are good. -/
def Comes (around : Surroundings) (program : Engine α) (solo : Solo) (good : α → Solo → Prop) :
    Prop :=
  ∃ value later, around.carryOut program solo = (.ok value, later) ∧ good value later

namespace Comes

theorem done {good : α → Solo → Prop} {value : α} (holds : good value solo) :
    Comes around (pure value) solo good :=
  ⟨value, solo, rfl, holds⟩

theorem bind {middle : β → Solo → Prop} {good : α → Solo → Prop} {first : Engine β}
    {next : β → Engine α} (start : Comes around first solo middle)
    (rest : ∀ value later, middle value later → Comes around (next value) later good) :
    Comes around (first >>= next) solo good := by
  obtain ⟨value, later, ran, holds⟩ := start
  obtain ⟨result, last, going, ends⟩ := rest value later holds
  exact ⟨result, last, (carryOut_bind ran).trans going, ends⟩

theorem outcome {good : α → Solo → Prop} {program : Engine α}
    (comes : Comes around program solo good) :
    Comes around (Program.outcome program) solo fun result later =>
      ∃ value, result = .ok value ∧ good value later := by
  obtain ⟨value, later, ran, holds⟩ := comes
  have tried : around.carryOut (Program.outcome program) solo = _ := run_outcome program solo
  unfold carryOut at ran
  rw [ran] at tried
  exact ⟨.ok value, later, tried, value, rfl, holds⟩

theorem now : Comes around Engine.now solo fun now later => now = around.time ∧ later = solo :=
  ⟨around.time, solo, rfl, rfl, rfl⟩

theorem ofExcept {given : Except Fault α} {value : α} (made : given = .ok value) :
    Comes around (Program.ofExcept given) solo fun result later =>
      result = value ∧ later = solo := by
  subst made
  exact ⟨value, solo, rfl, rfl, rfl⟩

theorem of_mild {program : Engine α} (mild : KeepsMild program)
    (succeeds : ∃ value, (around.carryOut program solo).1 = .ok value) :
    Comes around program solo fun _ later => solo.Spared later := by
  obtain ⟨value, done⟩ := succeeds
  exact ⟨value, _, Prod.ext done rfl, carryOut_spared mild solo⟩

theorem flush (rows : List LogEntry) :
    Comes around (Engine.flush rows) solo fun _ later => solo.Spared later :=
  .of_mild (flush_mild rows) ⟨(), Engine.flush_result (around.carryOut_transcript _ solo)⟩

theorem read {request : StoreCall} {value : request.Answer} (mild : request.isMild = true)
    (told : (solo.store.answer around.time request).1 = .ok value) :
    Comes around (Engine.store request) solo fun answer later =>
      answer = value ∧ solo.Spared later := by
  have asked : around.carryOut (Engine.store request) solo = _ := carryOut_read mild solo
  rw [told] at asked
  have spared : solo.Spared (around.carryOut (Engine.store request) solo).2 :=
    carryOut_spared (mild_store mild) solo
  rw [asked] at spared
  exact ⟨value, _, asked, rfl, spared⟩

theorem unused {request : StoreCall} (mild : request.isMild = true)
    (answers : ∃ value, (solo.store.answer around.time request).1 = .ok value) :
    Comes around (discard (Engine.store request)) solo fun _ later => solo.Spared later := by
  obtain ⟨value, told⟩ := answers
  exact (read mild told).bind fun _ _ known => .done known.2

end Comes

namespace Run

variable {settings : EngineSettings} {session : Session} {inboundText : Option String}
  {isResume : Bool} {flow : Option Flow}

theorem commit_fares (decision : Decision) (progress : Progress) (ahead : solo.clash.isSome = true) :
    Fares around solo (around.carryOut (commit session decision progress) solo) := by
  unfold commit commit.finish
  refine Fares.after_mild (.now rfl) ahead fun now later ahead => ?_
  cases decision with
  | awaitInput kind => exact .write rfl (fun _ => .done _) ahead
  | suspend resumeAt =>
      refine Fares.after_mild (.ofExcept _) ahead fun job later ahead => ?_
      refine Fares.after_mild (mild_unused rfl) ahead fun _ later ahead => ?_
      exact .write rfl (fun _ => .done _) ahead
  | terminate outcome reason =>
      exact .write rfl (fun stored => (mild_unused rfl).bind fun _ => .done _) ahead
  | advance target handle =>
      exact .write rfl (fun stored => (mild_unused rfl).bind fun _ => .done _) ahead

theorem decide_mild (flow : Option Flow) :
    KeepsMild (decide settings flow session inboundText isResume) :=
  (decide_apart flow session inboundText isResume).mono fun _ => Call.isMild_of_apart

theorem dispatchAll_mild (organization conversation : String) (effects : List Effect) :
    KeepsMild (Effect.dispatchAll organization conversation effects) :=
  (Effect.dispatchAll_apart organization conversation effects).mono fun _ => Call.isMild_of_apart

theorem run_fares (ahead : solo.clash.isSome = true) :
    Fares around solo (around.carryOut (run settings session inboundText isResume flow) solo) := by
  unfold run
  extract_lets proceed
  have going (flow : Option Flow) {solo : Solo} (ahead : solo.clash.isSome = true) :
      Fares around solo (around.carryOut (proceed flow) solo) := by
    refine Fares.after_mild (decide_mild flow) ahead fun decided later ahead => ?_
    refine (commit_fares decided.1 decided.2 ahead).outcome (fun outcome => ?_) fun fault last => ?_
    · cases outcome with
      | error fault => exact (flush_mild _).bind fun _ => .fail _
      | ok stored =>
          exact (dispatchAll_mild _ _ _).bind fun _ => (flush_mild _).bind fun _ => .done _
    · obtain ⟨_, after, flushed, _⟩ := @Comes.flush around last decided.2.trace
      show (around.carryOut (Engine.flush decided.2.trace >>= fun _ => .fail fault) last).1 = _
      rw [carryOut_bind flushed]
      rfl
  cases flow with
  | some flow => exact going (some flow) ahead
  | none => exact Fares.after_mild (mild_store rfl) ahead fun flow _ ahead => going flow ahead

end Run

theorem Event.endSession_fares (around : Surroundings) (session : Session) (status : SessionStatus)
    (reason : String) (ahead : solo.clash.isSome = true) :
    Fares around solo (around.carryOut (endSession session status reason) solo) := by
  refine Fares.after_mild (.now rfl) ahead fun now later ahead => ?_
  refine Fares.write rfl (fun stored => ?_) ahead
  exact (mild_unused rfl).bind fun _ => (flush_mild _).bind fun _ => .done _

/-! ### Where no write is refused -/

namespace Store

/-- The active session of a conversation, if there is one, is not running. -/
def NoneRunning (store : Store) (conversation : String) : Prop :=
  ∀ session, store.activeSession conversation = some session → session.status ≠ .running

theorem Alike.noneRunning {store other : Store} (alike : store.Alike other) {conversation : String}
    (none_ : store.NoneRunning conversation) : other.NoneRunning conversation := by
  intro session found
  rw [alike.activeSession] at found
  exact none_ session found

/-- Who owned a conversation and was written is its active session, unless it was ended. -/
theorem activeSession_updated {store later : Store} {written stored : Session} {expected : Int}
    {now : Stamp} (wrote : Updated store written expected now stored later)
    (owner : Table.lookup? written.conversation store.active = some (sessionName written)) :
    later.activeSession written.conversation =
      if written.isActive = true then some stored else none := by
  unfold Store.activeSession
  rw [wrote.index, if_pos rfl, if_pos owner]
  split
  · exact (wrote.rows _).trans (if_pos rfl)
  · rfl

end Store

/-- An active session stands in a sound store, and no write is refused any more. -/
structure Solo.Ready (solo : Solo) (session : Session) : Prop where
  sound : solo.store.WellFormed
  clear : solo.clash = none
  stands : ∃ id, solo.store.getSession id = some session
  active : session.isActive = true

theorem Solo.Ready.spared {later : Solo} {session : Session} (ready : solo.Ready session)
    (spared : solo.Spared later) : later.Ready session where
  sound := spared.sound ready.sound
  clear := spared.clash.trans ready.clear
  stands := by
    obtain ⟨id, stands⟩ := ready.stands
    exact ⟨id, (spared.alike.getSession id).trans stands⟩
  active := ready.active

/-- A session was written, and is the active one of its conversation if it goes on. -/
structure Solo.Wrote (solo : Solo) (written stored : Session) (later : Solo) : Prop where
  sound : later.store.WellFormed
  clear : later.clash = none
  status : stored.status = written.status
  active : later.store.activeSession written.conversation =
    if written.isActive = true then some stored else none

theorem Solo.Wrote.noneRunning {written stored : Session} {later : Solo}
    (wrote : solo.Wrote written stored later) (stops : written.status ≠ .running) :
    later.store.NoneRunning written.conversation := by
  intro session found
  rw [wrote.active] at found
  split at found
  · cases found
    rw [wrote.status]
    exact stops
  · cases found

/-- An active session is written with the revision that it has. -/
theorem Comes.update {session written : Session} {expected : Int} (ready : solo.Ready session)
    (same : written.id = session.id) (place : written.conversation = session.conversation)
    (agreed : session.revision = expected) :
    Comes around (Engine.store (.updateSession written expected)) solo (solo.Wrote written) := by
  obtain ⟨id, stands⟩ := ready.stands
  have named : written.id = some id := same.trans (ready.sound.sessionNamed stands)
  have called : Store.sessionName written = id := Store.sessionName_of_id named
  obtain ⟨stored, later, done⟩ :=
    Store.updateSession_succeeds ready.sound named stands ready.active place agreed around.time
  have wrote := Store.updateSession_ok done
  have told : solo.store.answer around.time (.updateSession written expected) =
      (.ok stored, later) := congrArg (Store.changing solo.store) done
  have unmet : solo.isMet (.updateSession written expected) = false := by
    simp [Solo.isMet, ready.clear]
  have owner : Table.lookup? written.conversation solo.store.active =
      some (Store.sessionName written) := by
    rw [place, called]
    exact ready.sound.listed stands ready.active
  have sound : later.WellFormed := by
    refine ready.sound.updated wrote fun current found => ?_
    rw [called, stands] at found
    cases found
    exact place.symm
  have answered : around.answer _ solo = _ := answer_unmet unmet
  rw [told] at answered
  refine ⟨stored, _, (@run_perform _ _ _ around.answer (.store _) solo).trans answered, sound, ?_,
    ?_, Store.activeSession_updated wrote owner⟩
  · simp [Solo.after, ready.clear]
  · rw [wrote.row]

theorem clock_log (program : Engine α) (solo : Solo) (fault : Fault) :
    ⟨.clock, .error fault⟩ ∉ program.log around.answer solo := by
  induction program generalizing solo with
  | done value => exact List.not_mem_nil
  | fail fault => exact List.not_mem_nil
  | call request next ih =>
      intro member
      rcases List.mem_cons.mp member with same | later
      · cases request with
        | clock => cases same
        | store | complete | http | history | deliver | sleep => cases same
      · exact ih _ _ later

namespace Run

variable {settings : EngineSettings} {session : Session} {inboundText : Option String}
  {isResume : Bool} {flow : Option Flow}

theorem decide_comes :
    Comes around (decide settings flow session inboundText isResume) solo fun _ later =>
      solo.Spared later := by
  refine .of_mild (decide_mild flow) ?_
  have ran := around.carryOut_transcript
    (decide settings flow session inboundText isResume) solo
  have apart := (decide_apart flow session inboundText isResume).all ran
  have ends := ran.follows (decide_follows flow inboundText isResume [])
  cases reached : (around.carryOut (decide settings flow session inboundText isResume) solo).1 with
  | ok decided => exact ⟨decided, rfl⟩
  | error fault =>
      -- neither the clock nor the store has failed
      rw [reached] at ends
      obtain ⟨request, cause, member, blamed⟩ := ends
      rw [List.append_nil, List.mem_reverse] at member
      have outside := apart _ member
      cases request with
      | clock => exact absurd member (clock_log _ solo cause)
      | store => cases outside
      | complete | http | history | deliver | sleep => cases blamed

/-- A decision on an active session is stored, and the session is not running then. -/
theorem commit_comes (ready : solo.Ready session) (decision : Decision) (progress : Progress) :
    Comes around (commit session decision progress) solo fun _ later =>
      later.store.NoneRunning session.conversation := by
  have finished (outcome : Outcome) (reason : String) (subject : TraceSubject) (now : Stamp) :
      Comes around (commit.finish progress (placed session progress) outcome reason subject now) solo
        fun _ later => later.store.NoneRunning session.conversation := by
    have stops : outcome.sessionStatus ≠ .running := by cases outcome <;> decide
    refine Comes.bind (.update ready rfl rfl rfl) fun stored later wrote => ?_
    refine Comes.bind (.unused rfl ⟨_, rfl⟩) fun _ last spared => ?_
    exact .done (spared.alike.noneRunning (wrote.noneRunning stops))
  unfold commit
  refine Comes.bind .now fun now last same => ?_
  obtain ⟨rfl, rfl⟩ := same
  cases decision with
  | awaitInput kind =>
      refine Comes.bind (.update ready rfl rfl rfl) fun stored later wrote => ?_
      exact .done (wrote.noneRunning SessionStatus.noConfusion)
  | suspend resumeAt =>
      obtain ⟨id, stands⟩ := ready.stands
      have named : session.id = some id := ready.sound.sessionNamed stands
      obtain ⟨job, made⟩ : ∃ job,
          timerJob (placed session progress) progress.node resumeAt around.time = .ok job := by
        unfold timerJob placed
        dsimp only
        rw [named]
        exact ⟨_, rfl⟩
      refine Comes.bind (.ofExcept made) fun given middle same => ?_
      obtain ⟨rfl, rfl⟩ := same
      refine Comes.bind (.unused rfl ⟨_, rfl⟩) fun _ saved spared => ?_
      refine Comes.bind (.update (ready.spared spared) rfl rfl rfl) fun stored later wrote => ?_
      exact .done (wrote.noneRunning SessionStatus.noConfusion)
  | terminate outcome reason => exact finished outcome reason _ _
  | advance target handle => exact finished .failed "" _ _

/-- The run of an active session stores what was decided, and leaves no session running on the
conversation. -/
theorem run_comes (ready : solo.Ready session) :
    Comes around (run settings session inboundText isResume flow) solo fun report later =>
      report.status.isOfRun = true ∧ later.store.NoneRunning session.conversation := by
  suffices done : Comes around (run settings session inboundText isResume flow) solo fun _ later =>
      later.store.NoneRunning session.conversation by
    obtain ⟨report, later, ran, none_⟩ := done
    refine ⟨report, later, ran, ?_, none_⟩
    have course := run_course
      (around.carryOut_transcript (run settings session inboundText isResume flow) solo)
    rw [ran] at course
    generalize Program.log around.answer _ solo = calls at course
    cases course with
    | settled _ _ _ _ _ _ _ status _ => exact status
  unfold run
  extract_lets proceed
  have going (flow : Option Flow) {solo : Solo} (ready : solo.Ready session) :
      Comes around (proceed flow) solo fun _ later =>
        later.store.NoneRunning session.conversation := by
    refine Comes.bind decide_comes fun decided middle spared => ?_
    refine Comes.bind (commit_comes (ready.spared spared) decided.1 decided.2).outcome
      fun outcome stored committed => ?_
    obtain ⟨commit, rfl, none_⟩ := committed
    have sent : Comes around (Effect.dispatchAll session.organization session.conversation
        decided.2.effects) stored fun _ later => stored.Spared later :=
      .of_mild (dispatchAll_mild _ _ _)
        ⟨(), (Effect.dispatchAll_carriedOut (around.carryOut_transcript _ stored)).2⟩
    refine sent.bind fun _ sent spared => ?_
    refine (Comes.flush _).bind fun _ last logged => ?_
    exact .done (logged.alike.noneRunning (spared.alike.noneRunning none_))
  cases flow with
  | some flow => exact going (some flow) ready
  | none =>
      exact Comes.bind (.read rfl rfl) fun flow later known => going flow (ready.spared known.2)

end Run

end ChatFlow

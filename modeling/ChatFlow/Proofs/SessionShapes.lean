import ChatFlow.Proofs.FlowWrites
/-
The shapes of sessions between events. A session that is stored waits for a reply, waits for a timer,
or is over; only in the midst of an event is one running. An event that runs or ends a session reports
of it what is then stored.
-/

set_option autoImplicit false

namespace ChatFlow

open Program EnginePast

/-! ### Shapes -/

inductive SessionShape where
  | awaitingInput | awaitingTimer | ended
  deriving DecidableEq, Repr

/-- The shape that goes with a status; none goes with a session that is running. -/
def SessionStatus.shape? : SessionStatus → Option SessionShape
  | .running => none
  | .awaitingInput => some .awaitingInput
  | .awaitingTimer => some .awaitingTimer
  | .completed | .cancelled | .failed => some .ended

/-- Whether a session has a shape, among some timer jobs. -/
def Session.HasShape (session : Session) (jobs : Table Delay) : SessionShape → Prop
  | .awaitingInput => session.isActive = true ∧ session.status = .awaitingInput ∧
      session.resumeAt = none ∧ session.endReason = none ∧ session.endedAt = none
  | .awaitingTimer => session.isActive = true ∧ session.status = .awaitingTimer ∧
      session.resumeAt.isSome = true ∧ session.endReason = none ∧ session.endedAt = none
  | .ended => session.isActive = false ∧
      (session.status = .completed ∨ session.status = .failed ∨ session.status = .cancelled) ∧
      session.endReason.isSome = true ∧ session.endedAt.isSome = true ∧ session.resumeAt = none ∧
      ∀ name job, Table.lookup? name jobs = some job → some job.session = session.id →
        job.processed = true

namespace Session.HasShape

variable {session : Session} {jobs later : Table Delay} {shape : SessionShape}

theorem shape? (has : session.HasShape jobs shape) : session.status.shape? = some shape := by
  cases shape with
  | awaitingInput | awaitingTimer =>
      rw [has.2.1]
      rfl
  | ended => rcases has.2.1 with same | same | same <;> rw [same] <;> rfl

/-- Only a session that is over has lost its place and has a reason why it ended. -/
theorem unended (has : session.HasShape jobs shape) (active : session.isActive = true) :
    session.endReason = none ∧ session.endedAt = none := by
  cases shape with
  | awaitingInput | awaitingTimer => exact has.2.2.2
  | ended => exact absurd (active.symm.trans has.1) (by decide)

/-- A shape is kept while no job of the session is left open that was not open before. -/
theorem of_jobs (has : session.HasShape jobs shape)
    (opened : ∀ name job, Table.lookup? name later = some job → some job.session = session.id →
      job.processed = false → ∃ old, Table.lookup? name jobs = some old ∧
        old.session = job.session ∧ old.processed = false) :
    session.HasShape later shape := by
  cases shape with
  | awaitingInput | awaitingTimer => exact has
  | ended =>
      refine ⟨has.1, has.2.1, has.2.2.1, has.2.2.2.1, has.2.2.2.2.1, fun name job stored own => ?_⟩
      cases open_ : job.processed with
      | true => rfl
      | false =>
          obtain ⟨old, stood, same, unmarked⟩ := opened name job stored own open_
          exact unmarked.symm.trans (has.2.2.2.2.2 name old stood (same ▸ own))

end Session.HasShape

/-- The status under which an event reports that a session stands as it stands. -/
def SessionStatus.reported? : SessionStatus → Option EventStatus
  | .running => none
  | .awaitingInput => some .waitingInput
  | .awaitingTimer => some .waitingTimer
  | .completed => some .completed
  | .cancelled => some .cancelled
  | .failed => some .failed

/-- A report tells of a session that an event has run or ended. -/
structure EventReport.Reports (report : EventReport) (row : Session) : Prop
    extends report.Describes row where
  status : row.status.reported? = some report.status

/-! ### All but one session -/

theorem Delay.SameJob.session {job row : Delay} (same : job.SameJob row) :
    job.session = row.session := by
  unfold Delay.SameJob at same
  rw [same]

namespace Store

variable {store middle later : Store} {id : String} {session stored : Session}

/-- The sessions stand as they stood but for one, and no other one has got a timer job. -/
structure AllBut (id : String) (store later : Store) : Prop where
  rows : ∀ other, other ≠ id → later.getSession other = store.getSession other
  jobs : ∀ name job, Table.lookup? name later.delays = some job → job.processed = false →
    job.session ≠ id → ∃ old, Table.lookup? name store.delays = some old ∧
      old.session = job.session ∧ old.processed = false

namespace AllBut

theorem of_sameRows (same : SameRows store later) (id : String) : AllBut id store later where
  rows other _ := same.getSession other
  jobs _ job present open_ _ := ⟨job, same.delays ▸ present, rfl, open_⟩

theorem refl (id : String) (store : Store) : AllBut id store store := of_sameRows (.refl store) id

theorem trans (lower : AllBut id store middle) (upper : AllBut id middle later) :
    AllBut id store later where
  rows other apart := (upper.rows other apart).trans (lower.rows other apart)
  jobs name job present open_ apart := by
    obtain ⟨old, stood, same, unmarked⟩ := upper.jobs name job present open_ apart
    obtain ⟨first, began, alike, still⟩ := lower.jobs name old stood unmarked (same ▸ apart)
    exact ⟨first, began, alike.trans same, still⟩

theorem of_updated {expected : Int} {now : Stamp}
    (wrote : Updated store session expected now stored later) :
    AllBut (sessionName session) store later where
  rows other apart := by rw [wrote.rows, if_neg (Ne.symm apart)]
  jobs _ job present open_ _ := ⟨job, wrote.delays ▸ present, rfl, open_⟩

theorem of_created (made : Created store session stored later) :
    AllBut store.nextSession store later where
  rows other apart := by rw [made.rows, if_neg (Ne.symm apart)]
  jobs _ job present open_ _ := ⟨job, made.delays ▸ present, rfl, open_⟩

/-- Jobs are saved for the one session, or marked. -/
theorem of_answer {request : StoreCall} (quiet : (Call.store request).writesSession = false)
    (own : ∀ job, request = .saveDelay job → job.session = id) (stamp : Stamp) (store : Store) :
    AllBut id store (store.answer stamp request).2 where
  rows other _ := answer_getSession quiet stamp other
  jobs name job present open_ apart := by
    rcases job_of_answer request stamp present with ⟨old, stood, same, unmarked⟩ | ⟨given, rfl, saved⟩
    · exact ⟨old, stood, same.session, unmarked open_⟩
    · rw [saved] at apart
      exact absurd (own given rfl) apart

end AllBut

/-- A session that may be run or ended: it is active, and stands as it was read. -/
structure Runnable (store : Store) (id : String) (session : Session) : Prop where
  sound : WellFormed store
  stands : store.getSession id = some session
  active : session.isActive = true
  unended : session.endReason = none ∧ session.endedAt = none

theorem Runnable.named (ready : store.Runnable id session) : session.id = some id :=
  ready.sound.sessionNamed ready.stands

/-- A session has been carried on: it is in a shape, and a report tells of it. -/
structure Settles (id : String) (home : Home) (store later : Store) (report : EventReport) : Prop
    extends AllBut id store later where
  sound : WellFormed later
  row : ∃ row, later.getSession id = some row ∧ store.getSession id ≠ some row ∧ row.home = home ∧
    report.Reports row ∧ ∃ shape, row.HasShape later.delays shape

theorem Settles.after {home : Home} {report : EventReport} (upper : Settles id home middle later report)
    (lower : AllBut id store middle)
    (kept : ∀ row, store.getSession id = some row → middle.getSession id = some row) :
    Settles id home store later report where
  toAllBut := lower.trans upper.toAllBut
  sound := upper.sound
  row := by
    obtain ⟨row, stands, written, facts⟩ := upper.row
    exact ⟨row, stands, fun old => written (kept row old), facts⟩

theorem Settles.sameRows {home : Home} {report : EventReport} (lower : Settles id home store middle report)
    (same : SameRows middle later) : Settles id home store later report where
  toAllBut := lower.toAllBut.trans (.of_sameRows same id)
  sound := lower.sound.of_sameRows same
  row := by
    obtain ⟨row, stands, facts⟩ := lower.row
    rw [same.delays]
    exact ⟨row, (same.getSession id).trans stands, facts⟩

/-- A session that is written over is not what it was: its revision is higher. -/
theorem Updated.ne_current {expected : Int} {stamp : Stamp}
    (wrote : Updated store session expected stamp stored later) :
    store.getSession (sessionName session) ≠ some stored := by
  obtain ⟨current, found, agreed⟩ := wrote.found
  intro same
  cases found.symm.trans same
  rw [wrote.row] at agreed
  exact absurd agreed (Int.ne_of_gt (Int.lt_succ expected))

/-- A session has ended, and all its timer jobs are marked. -/
structure Ends (id : String) (home : Home) (store later : Store) (stored : Session) : Prop
    extends AllBut id store later where
  sound : WellFormed later
  row : later.getSession id = some stored
  written : store.getSession id ≠ some stored
  home : stored.home = home
  shape : stored.HasShape later.delays .ended

theorem Ends.sameRows {home : Home} (lower : Ends id home store middle stored)
    (same : SameRows middle later) : Ends id home store later stored where
  toAllBut := lower.toAllBut.trans (.of_sameRows same id)
  sound := lower.sound.of_sameRows same
  row := (same.getSession id).trans lower.row
  written := lower.written
  home := lower.home
  shape := same.delays ▸ lower.shape

theorem Ends.settles {home : Home} {report : EventReport} (ends : Ends id home store later stored)
    (reports : report.Reports stored) : Settles id home store later report :=
  ⟨ends.toAllBut, ends.sound, stored, ends.row, ends.written, ends.home, reports, .ended, ends.shape⟩

/-- No job of a session is open when its jobs have been marked. -/
theorem markSessionDelays_closes (session : Option String) (now : Stamp) (store : Store)
    {name : String} {job : Delay}
    (present : Table.lookup? name (store.markSessionDelays session now).2.delays = some job)
    (own : some job.session = session) : job.processed = true := by
  rw [lookup?_markSessionDelays] at present
  obtain ⟨old, _, same⟩ := Option.map_eq_some_iff.mp present
  split at same
  · rw [← same]
    rfl
  · next done =>
      subst same
      simpa [isWaitingFor, own] using done

/-- A session that is written over as ended, and whose jobs are marked, has ended. -/
theorem Runnable.ends (ready : store.Runnable id session) {given : Session} {status : SessionStatus}
    {reason : String} {now stamp : Stamp} {expected : Int}
    (wrote : Updated store (Run.ended given status reason now) expected stamp stored middle)
    (named : given.id = session.id) (home : given.home = session.home)
    (final : status = .completed ∨ status = .failed ∨ status = .cancelled) (marked : Stamp) :
    Ends id session.home store (middle.markSessionDelays stored.id marked).2 stored := by
  have own : stored.id = some id := by
    rw [wrote.row]
    exact named.trans ready.named
  have called : sessionName (Run.ended given status reason now) = id :=
    sessionName_of_id (named.trans ready.named)
  have row : middle.getSession id = some stored := by rw [wrote.rows, if_pos called]
  have sound : WellFormed middle := by
    refine ready.sound.updated wrote fun current found => ?_
    rw [called, ready.stands] at found
    cases found
    exact congrArg Home.conversation home.symm
  have others : AllBut id middle (middle.markSessionDelays stored.id marked).2 :=
    @AllBut.of_answer id (.markSessionDelays stored.id) rfl (fun _ same => nomatch same) marked middle
  refine ⟨(called ▸ AllBut.of_updated wrote).trans others, sound.markSessionDelays _ _, row,
    called ▸ wrote.ne_current, ?_, ?_⟩
  · rw [wrote.row]
    exact home
  · have fields : stored.isActive = false ∧ stored.status = status ∧
        stored.endReason = some reason ∧ stored.endedAt = some now ∧ stored.resumeAt = none := by
      rw [wrote.row]
      exact ⟨rfl, rfl, rfl, rfl, rfl⟩
    obtain ⟨inactive, same, why, when_, undue⟩ := fields
    exact ⟨inactive, same ▸ final, by rw [why]; rfl, by rw [when_]; rfl, undue,
      fun _ _ present mine => markSessionDelays_closes stored.id marked middle present mine⟩

end Store

/-! ### Runs -/

section

variable {store : Store} {id : String} {session : Session} {settings : EngineSettings}

theorem update_ensures (ready : store.Runnable id session) {given : Session}
    (named : given.id = session.id) (place : given.conversation = session.conversation)
    {expected : Int} (agreed : expected = session.revision) :
    Ensures (succeeds fun stored later => ∃ stamp, store.Updated given expected stamp stored later)
      (Engine.store (.updateSession given expected)) store := by
  refine @Ensures.asks store (.updateSession given expected) _ fun stamp => ?_
  obtain ⟨stored, later, done⟩ := Store.updateSession_succeeds ready.sound
    (named.trans ready.named) ready.stands ready.active place agreed.symm stamp
  have answered : store.answer stamp (.updateSession given expected) = (.ok stored, later) :=
    congrArg (Store.changing store) done
  rw [answered]
  exact ⟨stamp, Store.updateSession_ok done⟩

/-- The session is written over as ended; then its timer jobs are marked. -/
theorem marks_ensures (ready : store.Runnable id session) {given stored : Session}
    {status : SessionStatus} {reason : String} {now stamp : Stamp} {expected : Int} {middle : Store}
    (wrote : store.Updated (Run.ended given status reason now) expected stamp stored middle)
    (named : given.id = session.id) (home : given.home = session.home)
    (final : status = .completed ∨ status = .failed ∨ status = .cancelled) :
    Ensures (succeeds fun _ later => store.Ends id session.home later stored)
      (discard (Engine.store (.markSessionDelays stored.id))) middle := by
  have asked : Ensures (succeeds fun _ later => store.Ends id session.home later stored)
      (Engine.store (.markSessionDelays stored.id)) middle :=
    @Ensures.asks middle (.markSessionDelays stored.id) _ fun marked =>
      ready.ends wrote named home final marked
  exact asked.andThen fun _ _ ends => Ensures.done ends

/-- The trace is written without harm to anything else. -/
theorem flush_ensures (rows : List LogEntry) (store : Store) :
    Ensures (succeeds fun _ later => store.SameRows later) (Engine.flush rows) store := by
  unfold Engine.flush
  split
  · exact Ensures.done (.refl store)
  · have saved : Ensures (fun _ later => store.SameRows later)
        (Engine.store (.saveLogs rows)) store :=
      Ensures.asks fun stamp => Store.answer_sameRows rfl stamp store
    exact saved.outcome.andThen fun _ _ same => Ensures.done same

/-- A program that does not ask the store, and takes every failure of a service. -/
theorem spares_ensures {α : Type} {program : Engine α}
    (follows : ∀ past, Follows (fun _ request => request.isStore = false) (always fun _ _ => True)
      program past) (store : Store) :
    Ensures (succeeds fun _ later => later = store) program store := by
  refine (Ensures.of_follows (follows []) (fun _ _ service => service) Ensures.not_denied_nil).weaken ?_
  rintro (fault | value) later ⟨same, last, _, known⟩
  · exact known.elim
  · exact same

namespace Run

/-- A decision is always reached, and the store is not asked for it. -/
theorem decide_ensures (session : Session) (flow : Option Flow) (inboundText : Option String)
    (isResume : Bool) (store : Store) :
    Ensures (succeeds fun _ later => later = store)
      (decide settings flow session inboundText isResume) store := by
  have decided := @decide_follows settings session flow inboundText isResume []
  refine (Ensures.of_follows decided (fun _ _ service => service) Ensures.not_denied_nil).weaken ?_
  rintro (fault | reached) later ⟨same, last, granted, known⟩
  · exact absurd known granted
  · exact same

theorem sessionStatus_over (outcome : Outcome) : outcome.sessionStatus = .completed ∨
    outcome.sessionStatus = .failed ∨ outcome.sessionStatus = .cancelled := by
  cases outcome <;> decide

theorem sessionStatus_reported (outcome : Outcome) :
    outcome.sessionStatus.reported? = some outcome.eventStatus := by
  cases outcome <;> rfl

theorem finish_ensures (ready : store.Runnable id session) (progress : Progress)
    (outcome : Outcome) (reason : String) (subject : TraceSubject) (now : Stamp) :
    Ensures (succeeds fun commit later =>
        Store.Settles id session.home store later commit.report)
      (commit.finish progress (placed session progress) outcome reason subject now) store := by
  have wrote := @update_ensures store id session ready
    (ended (placed session progress) outcome.sessionStatus reason now) rfl rfl session.revision rfl
  refine wrote.andThen fun stored middle known => ?_
  obtain ⟨stamp, wrote⟩ := known
  have marked := marks_ensures ready wrote rfl rfl (sessionStatus_over outcome)
  refine marked.andThen fun _ later ends => Ensures.done (ends.settles ?_)
  rw [wrote.row]
  exact ⟨⟨rfl, rfl, rfl, rfl⟩, sessionStatus_reported outcome⟩

/-- A session that is written over as waiting, in the shape that goes with it. -/
theorem settles_of_waiting (ready : store.Runnable id session) {given stored : Session}
    {expected : Int} {stamp : Stamp} {later : Store}
    (wrote : store.Updated given expected stamp stored later) (named : given.id = session.id)
    (home : given.home = session.home) {report : EventReport} (reports : report.Reports stored)
    {shape : SessionShape} (has : stored.HasShape later.delays shape) :
    Store.Settles id session.home store later report := by
  have called : Store.sessionName given = id := Store.sessionName_of_id (named.trans ready.named)
  refine ⟨called ▸ .of_updated wrote, ?_, stored, ?_, called ▸ wrote.ne_current, ?_, reports, shape,
    has⟩
  · refine ready.sound.updated wrote fun current found => ?_
    rw [called, ready.stands] at found
    cases found
    exact congrArg Home.conversation home.symm
  · rw [wrote.rows, if_pos called]
  · rw [wrote.row]
    exact home

theorem saveJob_ensures (ready : store.Runnable id session) {job : Delay} (own : job.session = id) :
    Ensures (succeeds fun _ later => store.AllBut id later ∧ later.Runnable id session)
      (discard (Engine.store (.saveDelay job))) store := by
  have asked : Ensures (succeeds fun _ later => store.AllBut id later ∧ later.Runnable id session)
      (Engine.store (.saveDelay job)) store := by
    refine @Ensures.asks store (.saveDelay job) _ fun stamp => ?_
    have others : store.AllBut id (store.saveDelay job).2 := by
      refine @Store.AllBut.of_answer id (.saveDelay job) rfl (fun given same => ?_) stamp store
      cases same
      exact own
    exact ⟨others, ready.sound.saveDelay job, ready.stands, ready.active, ready.unended⟩
  exact asked.andThen fun _ _ known => Ensures.done known

/-- A decision is stored whatever it is, for a session that stands as it was read. -/
theorem commit_ensures (ready : store.Runnable id session) (decision : Decision)
    (progress : Progress) :
    Ensures (succeeds fun commit later => Store.Settles id session.home store later commit.report)
      (commit session decision progress) store := by
  unfold commit
  dsimp only
  refine Ensures.now fun now => ?_
  cases decision with
  | terminate outcome reason => exact finish_ensures ready progress outcome reason _ now
  | advance target handle => exact finish_ensures ready progress .failed "" _ now
  | awaitInput kind =>
      have wrote := @update_ensures store id session ready
        { placed session progress with status := .awaitingInput, resumeAt := none } rfl rfl
        session.revision rfl
      refine wrote.andThen fun stored later known => Ensures.done ?_
      obtain ⟨stamp, wrote⟩ := known
      have fields : (committed progress stored (TraceSubject.ofSession session) now .waitingInput
          .waitingInput (wordOf kind) none).report.Reports stored ∧
          stored.HasShape later.delays .awaitingInput := by
        rw [wrote.row]
        exact ⟨⟨⟨rfl, rfl, rfl, rfl⟩, rfl⟩, ready.active, rfl, rfl, ready.unended⟩
      exact settles_of_waiting ready wrote rfl rfl fields.1 fields.2
  | suspend resumeAt =>
      have built : Ensures (succeeds fun job later => later = store ∧ job.session = id)
          (Program.ofExcept (timerJob (placed session progress) progress.node resumeAt now))
          store := by
        apply Ensures.ofExcept
        unfold timerJob
        rw [show (placed session progress).id = some id from ready.named]
        exact ⟨rfl, rfl⟩
      refine built.andThen fun job start known => ?_
      obtain ⟨rfl, own⟩ := known
      refine (saveJob_ensures ready own).andThen fun _ middle known => ?_
      obtain ⟨others, waits⟩ := known
      have wrote := @update_ensures middle id session waits
        { placed session progress with status := .awaitingTimer, resumeAt := some resumeAt } rfl rfl
        session.revision rfl
      refine wrote.andThen fun stored later known => Ensures.done ?_
      obtain ⟨stamp, wrote⟩ := known
      have fields : (committed progress stored (TraceSubject.ofSession session) now .waitingTimer
          .waitingTimer resumeAt.numericText none).report.Reports stored ∧
          stored.HasShape later.delays .awaitingTimer := by
        rw [wrote.row]
        exact ⟨⟨⟨rfl, rfl, rfl, rfl⟩, rfl⟩, waits.active, rfl, rfl, waits.unended⟩
      refine (settles_of_waiting waits wrote rfl rfl fields.1 fields.2).after others fun row old => ?_
      cases ready.stands.symm.trans old
      exact waits.stands

/-- A run always comes to an end, and settles its session. -/
theorem run_ensures (ready : store.Runnable id session) (inboundText : Option String)
    (isResume : Bool) (flow : Option Flow) :
    Ensures (succeeds fun report later => Store.Settles id session.home store later report)
      (run settings session inboundText isResume flow) store := by
  unfold run
  extract_lets proceed
  have rest (flow : Option Flow) :
      Ensures (succeeds fun report later => Store.Settles id session.home store later report)
        (proceed flow) store := by
    refine (decide_ensures session flow inboundText isResume store).andThen
      fun reached later same => ?_
    subst same
    obtain ⟨decision, progress⟩ := reached
    refine (commit_ensures ready decision progress).outcome.andThen fun result middle known => ?_
    cases result with
    | error fault => exact known.elim
    | ok commit =>
        have settles : Store.Settles id session.home later middle commit.report := known
        have sent := spares_ensures (Effect.dispatchAll_always session.organization
          session.conversation progress.effects) middle
        refine sent.andThen fun _ last same => ?_
        subst same
        refine (flush_ensures _ last).andThen fun _ final same => ?_
        exact Ensures.done (settles.sameRows same)
  cases flow with
  | some flow => exact rest (some flow)
  | none =>
      have fetched : Ensures (succeeds fun _ later => later = store)
          (Engine.store (.getFlow session.flow)) store :=
        @Ensures.asks store (.getFlow session.flow) _ fun _ => rfl
      refine fetched.andThen fun flow later same => ?_
      subst same
      exact rest flow

end Run

end

end ChatFlow

import ChatFlow.Engine.Event
import ChatFlow.Proofs.RunCourse
/-
The course of an event. An event consists of one attempt, or of two where the first one has met
another writer; an attempt comes to a run or decides without one. Outside of runs nothing is
delivered, and sessions are written only to end them.
-/

set_option autoImplicit false

namespace ChatFlow

open Program

variable {settings : EngineSettings} {calls : List (Answered Call.Answer)}
  {result : Except Fault EventReport}

namespace Event

/-- A call outside of runs: it delivers nothing, and a session that it writes is one that was left
behind or is replaced. -/
def IsAside : Call → Prop
  | .deliver _ => False
  | .store (.updateSession written _) => ∃ found status reason now,
      written = Run.ended found status reason now ∧
        (reason = "replaced" ∨ reason = "stale_session")
  | _ => True

def Aside (calls : List (Answered Call.Answer)) : Prop :=
  ∀ entry ∈ calls, IsAside entry.request

theorem Aside.silent (aside : Aside calls) : deliveries calls = [] := by
  apply List.filterMap_eq_nil_iff.mpr
  intro entry member
  have kind := aside entry member
  cases asked : entry.request with
  | deliver delivery =>
      rw [asked] at kind
      exact kind.elim
  | store | clock | complete | http | history | sleep => rfl

/-! ### Attempts -/

/-- A run in an event: what it was begun with, its calls, and what came of it. -/
structure Ran (settings : EngineSettings) where
  session : Session
  inboundText : Option String
  isResume : Bool
  given : Option Flow
  calls : List (Answered Call.Answer)
  result : Except Fault EventReport
  recorded : Transcript (Run.run settings session inboundText isResume given) calls result

theorem Ran.course (run : Ran settings) :
    Run.Course settings run.session run.inboundText run.isResume run.given run.calls run.result :=
  Run.run_course run.recorded

/-- An attempt at an event, with the run that it has come to, if any. -/
inductive Attempt (settings : EngineSettings) :
    List (Answered Call.Answer) → Except Fault EventReport → Option (Ran settings) → Prop where
  | failed {calls : List (Answered Call.Answer)} {fault : Fault} (aside : Aside calls) :
      Attempt settings calls (.error fault) none
  | declined {calls : List (Answered Call.Answer)} {report : EventReport} (aside : Aside calls)
      (status : report.status.isOfRun = false) (nothing : report.effects = []) :
      Attempt settings calls (.ok report) none
  | ran {looking : List (Answered Call.Answer)} (aside : Aside looking) (run : Ran settings) :
      Attempt settings (looking ++ run.calls) run.result (some run)

/-- A call that asks no service, and traces the begin of no node. -/
def IsInward : Call → Prop
  | .store (.saveLogs rows) => ∀ row ∈ rows, row.kind ≠ .nodeStart
  | .store _ | .clock => True
  | _ => False

/-- A call that an attempt makes outside of its run. -/
structure IsErrand (request : Call) : Prop where
  aside : IsAside request
  inward : IsInward request

def Errands (calls : List (Answered Call.Answer)) : Prop :=
  ∀ entry ∈ calls, IsErrand entry.request

theorem errands_nil : Errands [] := fun _ member => nomatch member

@[simp]
theorem errands_append (earlier later : List (Answered Call.Answer)) :
    Errands (earlier ++ later) ↔ Errands earlier ∧ Errands later :=
  List.forall_mem_append

theorem Errands.aside (errands : Errands calls) : Aside calls :=
  fun entry member => (errands entry member).aside

/-- An attempt that makes errands only, but for the run that it may come to. -/
inductive Attempted (settings : EngineSettings) :
    List (Answered Call.Answer) → Except Fault EventReport → Option (Ran settings) → Prop where
  | failed {calls : List (Answered Call.Answer)} {fault : Fault} (errands : Errands calls) :
      Attempted settings calls (.error fault) none
  | declined {calls : List (Answered Call.Answer)} {report : EventReport} (errands : Errands calls)
      (status : report.status.isOfRun = false) (nothing : report.effects = [])
      (still : report.steps = 0) : Attempted settings calls (.ok report) none
  | ran {looking : List (Answered Call.Answer)} (errands : Errands looking) (run : Ran settings) :
      Attempted settings (looking ++ run.calls) run.result (some run)

theorem Attempted.attempt {run : Option (Ran settings)}
    (attempted : Attempted settings calls result run) : Attempt settings calls result run := by
  cases attempted with
  | failed errands => exact .failed errands.aside
  | declined errands status nothing still => exact .declined errands.aside status nothing
  | ran errands run => exact .ran errands.aside run

theorem Attempted.after {looking : List (Answered Call.Answer)} {run : Option (Ran settings)}
    (attempted : Attempted settings calls result run) (errands : Errands looking) :
    Attempted settings (looking ++ calls) result run := by
  cases attempted with
  | failed rest => exact .failed ((errands_append _ _).mpr ⟨errands, rest⟩)
  | declined rest status nothing still =>
      exact .declined ((errands_append _ _).mpr ⟨errands, rest⟩) status nothing still
  | ran rest run =>
      rw [← List.append_assoc]
      exact .ran ((errands_append _ _).mpr ⟨errands, rest⟩) run

/-- Some calls with their result are those of an attempt. -/
def IsAttempt (settings : EngineSettings) (calls : List (Answered Call.Answer))
    (result : Except Fault EventReport) : Prop :=
  ∃ run, Attempted settings calls result run

/-- Whatever a program is answered, what it has done is an attempt. -/
structure Attempts (settings : EngineSettings) (program : Engine EventReport) : Prop where
  attempt : ∀ calls result, Transcript program calls result → IsAttempt settings calls result

namespace Attempts

theorem declines {report : EventReport} (status : report.status.isOfRun = false)
    (nothing : report.effects = []) (still : report.steps = 0) :
    Attempts settings (pure report) := by
  constructor
  intro calls result ran
  obtain ⟨rfl, rfl⟩ := Transcript.of_done ran
  exact ⟨none, .declined errands_nil status nothing still⟩

theorem fails (fault : Fault) : Attempts settings (.fail fault) := by
  constructor
  intro calls result ran
  obtain ⟨rfl, rfl⟩ := Transcript.of_fail ran
  exact ⟨none, .failed errands_nil⟩

theorem runs (session : Session) (inboundText : Option String) (isResume : Bool)
    (given : Option Flow) :
    Attempts settings (Run.run settings session inboundText isResume given) := by
  constructor
  intro calls result ran
  exact ⟨some _, .ran errands_nil ⟨session, inboundText, isResume, given, calls, result, ran⟩⟩

theorem bind {α : Type} {first : Engine α} {next : α → Engine EventReport}
    (errands : Makes IsErrand first) (rest : ∀ value, Attempts settings (next value)) :
    Attempts settings (first >>= next) := by
  constructor
  intro calls result ran
  rcases Transcript.of_bind ran with ⟨value, earlier, later, rfl, began, going⟩ | ⟨_, began, rfl⟩
  · obtain ⟨run, attempted⟩ := (rest value).attempt later result going
    exact ⟨run, attempted.after (errands.all began)⟩
  · exact ⟨none, .failed (errands.all began)⟩

end Attempts

/-- The calls by which a session is ended outside of a run. -/
theorem endSession_makes {kind : Call → Prop} {found : Session} {status : SessionStatus}
    {reason : String} (clock : kind .clock)
    (write : ∀ now, kind (.store (.updateSession (Run.ended found status reason now) found.revision)))
    (mark : ∀ id, kind (.store (.markSessionDelays id)))
    (log : ∀ row, row.kind = .flowComplete → kind (.store (.saveLogs [row]))) :
    Makes kind (endSession found status reason) := by
  refine Makes.bind (.now clock) fun now => ?_
  refine Makes.bind (.store (write now)) fun stored => ?_
  refine Makes.bind (Makes.store (mark stored.id)).discarded fun _ => ?_
  exact (Engine.flush_makes (log _ rfl)).bind fun _ => .done _

theorem endSession_errand (found : Session) (status : SessionStatus) {reason : String}
    (outside : reason = "replaced" ∨ reason = "stale_session") :
    Makes IsErrand (endSession found status reason) := by
  refine endSession_makes ⟨trivial, trivial⟩ (fun now => ⟨?_, trivial⟩)
    (fun _ => ⟨trivial, trivial⟩) fun row complete => ⟨trivial, ?_⟩
  · exact ⟨found, status, reason, now, rfl, outside⟩
  · intro entry member
    rw [List.mem_singleton.mp member, complete]
    exact LogKind.noConfusion

/-! ### The attempts of the events -/

theorem startSession_attempts (flow : Flow) (start : Opening) :
    Attempts settings (startSession settings flow start) := by
  refine Attempts.bind (.now ⟨trivial, trivial⟩) fun now => ?_
  refine Attempts.bind (.ofExcept _) fun session => ?_
  refine Attempts.bind (.store ⟨trivial, trivial⟩) fun stored => ?_
  exact .runs stored start.inboundText false (some flow)

theorem flowFor_errand (organization : String) (connection text : Option String) :
    Makes IsErrand (Trigger.flowFor organization connection text) := by
  unfold Trigger.flowFor
  dsimp only
  split
  · exact .done _
  · exact (Makes.perform ⟨trivial, trivial⟩).bind fun _ => .ofExcept _

theorem startTriggered_attempts (message : InboundMessage) :
    Attempts settings (startTriggered settings message) := by
  apply Attempts.bind (flowFor_errand _ _ _)
  intro flow
  cases flow with
  | none => exact .declines rfl rfl rfl
  | some flow => exact startSession_attempts flow _

theorem handleOnSession_attempts (message : InboundMessage) (session : Session) :
    Attempts settings (handleOnSession settings message session) := by
  unfold handleOnSession
  dsimp only
  split
  · exact .declines rfl rfl rfl
  · split
    · refine Attempts.bind (.now ⟨trivial, trivial⟩) fun now => ?_
      split
      · exact .fails _
      · split
        · exact .declines rfl rfl rfl
        · apply Attempts.bind (endSession_errand session .failed (Or.inr rfl)).discarded
          intro _
          exact startTriggered_attempts message
    · exact .runs session message.text true none
    · exact .declines rfl rfl rfl

/-- What an attempt does once it has looked for the active session. -/
def handle (settings : EngineSettings) (message : InboundMessage) :
    Option Session → Engine EventReport
  | some session => handleOnSession settings message session
  | none => startTriggered settings message

/-- One attempt at handling a message. -/
def attempt (settings : EngineSettings) (message : InboundMessage) : Engine EventReport := do
  handle settings message (← Engine.store (.activeSession message.conversation))

theorem inbound_attempts (message : InboundMessage) :
    inbound settings message = withRetry (attempt settings message) := by
  unfold inbound attempt
  congr
  funext found
  cases found <;> rfl

theorem attempt_attempts (message : InboundMessage) :
    Attempts settings (attempt settings message) := by
  refine Attempts.bind (.store ⟨trivial, trivial⟩) fun found => ?_
  cases found with
  | some session => exact handleOnSession_attempts message session
  | none => exact startTriggered_attempts message

/-! ### Events -/

/-- The result of an event whose last attempt was its second one. -/
def settled : Except Fault EventReport → Except Fault EventReport
  | .ok report => .ok report
  | .error fault => if fault.isConflict then .ok conflictReport else .error fault

theorem settled_of_other {result : Except Fault EventReport}
    (other : ∀ fault, result = .error fault → fault.isConflict = false) :
    settled result = result := by
  cases result with
  | ok report => rfl
  | error fault =>
      unfold settled
      dsimp only
      rw [other fault rfl]
      rfl

/-- An event with the runs in it: one attempt, or two where the first one met another writer. -/
inductive Unfolds (settings : EngineSettings) :
    List (Answered Call.Answer) → Except Fault EventReport → List (Ran settings) → Prop where
  | once {calls : List (Answered Call.Answer)} {result : Except Fault EventReport}
      {run : Option (Ran settings)} (attempt : Attempt settings calls result run) :
      Unfolds settings calls result run.toList
  | twice {earlier later : List (Answered Call.Answer)} {fault : Fault}
      {result : Except Fault EventReport} {run again : Option (Ran settings)}
      (first : Attempt settings earlier (.error fault) run) (conflict : fault.isConflict = true)
      (second : Attempt settings later result again) :
      Unfolds settings (earlier ++ later) (settled result) (run.toList ++ again.toList)

/-- One attempt of a kind, or two where the first one met another writer. -/
inductive Twofold (kind : List (Answered Call.Answer) → Except Fault EventReport → Prop) :
    List (Answered Call.Answer) → Except Fault EventReport → Prop where
  | once {calls : List (Answered Call.Answer)} {result : Except Fault EventReport}
      (attempt : kind calls result) : Twofold kind calls result
  | twice {earlier later : List (Answered Call.Answer)} {fault : Fault}
      {result : Except Fault EventReport} (first : kind earlier (.error fault))
      (conflict : fault.isConflict = true) (second : kind later result) :
      Twofold kind (earlier ++ later) (settled result)

theorem Twofold.mono {kind other : List (Answered Call.Answer) → Except Fault EventReport → Prop}
    (twofold : Twofold kind calls result)
    (implies : ∀ calls result, kind calls result → other calls result) :
    Twofold other calls result := by
  cases twofold with
  | once attempt => exact .once (implies _ _ attempt)
  | twice first conflict second => exact .twice (implies _ _ first) conflict (implies _ _ second)

theorem Twofold.after {looking : List (Answered Call.Answer)}
    (twofold : Twofold (IsAttempt settings) calls result) (errands : Errands looking) :
    Twofold (IsAttempt settings) (looking ++ calls) result := by
  cases twofold with
  | once attempt =>
      obtain ⟨run, attempted⟩ := attempt
      exact .once ⟨run, attempted.after errands⟩
  | twice first conflict second =>
      obtain ⟨run, attempted⟩ := first
      rw [← List.append_assoc]
      exact .twice ⟨run, attempted.after errands⟩ conflict second

theorem Twofold.unfolds (twofold : Twofold (IsAttempt settings) calls result) :
    ∃ runs, Unfolds settings calls result runs := by
  cases twofold with
  | once attempt =>
      obtain ⟨run, attempted⟩ := attempt
      exact ⟨_, .once attempted.attempt⟩
  | twice first conflict second =>
      obtain ⟨run, attempted⟩ := first
      obtain ⟨again, other⟩ := second
      exact ⟨_, .twice attempted.attempt conflict other.attempt⟩

theorem unlessConflict_calls {program : Engine EventReport}
    {result : Except Fault (Option EventReport)}
    (ran : Transcript (unlessConflict program) calls result) :
    (∃ report, Transcript program calls (.ok report) ∧ result = .ok (some report)) ∨
    ∃ fault, Transcript program calls (.error fault) ∧
      result = if fault.isConflict then .ok none else .error fault := by
  rcases Transcript.of_bind ran with ⟨outcome, earlier, later, rfl, tried, rest⟩ | ⟨_, tried, _⟩
  · obtain ⟨inner, same, tried⟩ := Transcript.of_outcome tried
    cases same
    cases outcome with
    | ok report =>
        obtain ⟨rfl, rfl⟩ := Transcript.of_done rest
        rw [List.append_nil]
        exact Or.inl ⟨report, tried, rfl⟩
    | error fault =>
        refine Or.inr ⟨fault, ?_⟩
        dsimp only at rest
        split at rest
        · next conflict =>
            obtain ⟨rfl, rfl⟩ := Transcript.of_done rest
            rw [List.append_nil, if_pos conflict]
            exact ⟨tried, rfl⟩
        · next other =>
            obtain ⟨rfl, rfl⟩ := Transcript.of_fail rest
            rw [List.append_nil, if_neg other]
            exact ⟨tried, rfl⟩
  · obtain ⟨_, same, _⟩ := Transcript.of_outcome tried
    cases same

theorem retried {attempt : Engine EventReport}
    (ran : Transcript (do
      match ← unlessConflict attempt with
      | some report => return report
      | none => return conflictReport : Engine EventReport) calls result) :
    ∃ inner, Transcript attempt calls inner ∧ result = settled inner := by
  rcases Transcript.of_bind ran with ⟨second, earlier, later, rfl, tried, rest⟩ | ⟨fault, tried, rfl⟩
  · rcases unlessConflict_calls tried with ⟨report, again, same⟩ | ⟨fault, again, same⟩
    · cases same
      obtain ⟨rfl, rfl⟩ := Transcript.of_done rest
      rw [List.append_nil]
      exact ⟨_, again, rfl⟩
    · split at same
      · next conflict =>
          cases same
          obtain ⟨rfl, rfl⟩ := Transcript.of_done rest
          rw [List.append_nil]
          exact ⟨_, again, (if_pos conflict).symm⟩
      · cases same
  · rcases unlessConflict_calls tried with ⟨report, _, same⟩ | ⟨fault, again, same⟩
    · cases same
    · split at same
      · cases same
      · next other =>
          cases same
          exact ⟨_, again, (if_neg other).symm⟩

theorem withRetry_twofold {attempt : Engine EventReport}
    (ran : Transcript (withRetry attempt) calls result) :
    Twofold (Transcript attempt) calls result := by
  -- only where the first attempt has failed by a conflict is there a rest of the program to run
  rcases Transcript.of_bind ran with ⟨first, earlier, later, rfl, tried, rest⟩ | ⟨fault, tried, rfl⟩
  · rcases unlessConflict_calls tried with ⟨report, once, same⟩ | ⟨fault, once, same⟩
    · cases same
      obtain ⟨rfl, rfl⟩ := Transcript.of_done rest
      rw [List.append_nil]
      exact .once once
    · split at same
      · next conflict =>
          cases same
          obtain ⟨result, again, rfl⟩ := retried rest
          exact .twice once conflict again
      · cases same
  · rcases unlessConflict_calls tried with ⟨report, _, same⟩ | ⟨fault, once, same⟩
    · cases same
    · split at same
      · cases same
      · cases same
        exact .once once

theorem inbound_twofold {message : InboundMessage}
    (ran : Transcript (inbound settings message) calls result) :
    Twofold (IsAttempt settings) calls result := by
  rw [inbound_attempts] at ran
  exact (withRetry_twofold ran).mono (attempt_attempts message).attempt

theorem start_twofold {organization : String} {request : StartRequest} {startedBy : Option String}
    (ran : Transcript (start settings organization request startedBy) calls result) :
    Twofold (IsAttempt settings) calls result := by
  unfold start at ran
  rcases store_first ran with ⟨flow, later, rfl, rest⟩ | ⟨fault, rfl, rfl⟩
  · have looked : Errands [⟨.store (.getOwnedFlow organization request.flow), .ok flow⟩] :=
      fun entry member => List.mem_singleton.mp member ▸ ⟨trivial, trivial⟩
    cases flow with
    | none =>
        obtain ⟨rfl, rfl⟩ := Transcript.of_fail rest
        exact .once ⟨none, .failed looked⟩
    | some flow =>
        dsimp only at rest
        split at rest
        · obtain ⟨rfl, rfl⟩ := Transcript.of_fail rest
          exact .once ⟨none, .failed looked⟩
        · -- the flow is looked up once, before the first attempt and outside of both
          have tried := withRetry_twofold rest
          refine Twofold.after (tried.mono (Attempts.attempt ?_)) looked
          refine Attempts.bind (.store ⟨trivial, trivial⟩) fun found => ?_
          cases found with
          | some existing =>
              apply Attempts.bind (endSession_errand existing .cancelled (Or.inl rfl)).discarded
              intro _
              exact startSession_attempts flow _
          | none => exact startSession_attempts flow _
  · refine .once ⟨none, .failed fun entry member => ?_⟩
    exact List.mem_singleton.mp member ▸ ⟨trivial, trivial⟩

theorem resume_twofold {conversation session node : String}
    (ran : Transcript (resume settings conversation session node) calls result) :
    Twofold (IsAttempt settings) calls result := by
  refine (withRetry_twofold ran).mono (Attempts.attempt ?_)
  refine Attempts.bind (.store ⟨trivial, trivial⟩) fun found => ?_
  cases found with
  | none => exact .declines rfl rfl rfl
  | some found =>
      dsimp only
      split
      · exact .declines rfl rfl rfl
      · split
        · exact .declines rfl rfl rfl
        · split
          · exact .declines rfl rfl rfl
          · split
            · exact .runs found none true none
            · refine Attempts.bind (.now ⟨trivial, trivial⟩) fun now => ?_
              split
              · exact .fails _
              · exact .declines rfl rfl rfl
              · exact .runs found none true none

end Event

end ChatFlow

import ChatFlow.Proofs.Remnants
import ChatFlow.Proofs.StoreFrame
/-
Who marks timer jobs. A store that answers calls one by one leaves the row of a job alone, but for the
calls that mark it. A timer event marks no jobs but those of its own session, and these only where it
comes to something.
-/

set_option autoImplicit false

namespace ChatFlow

open Program

variable {calls : List (Answered Call.Answer)}

/-! ### A store that answers calls -/

/-- Whether an operation lists the timer jobs that are due, or marks one. -/
def StoreCall.isOfJobs : StoreCall → Bool
  | .pendingDelays _ | .markDelay _ => true
  | _ => false

/-- A call has marked a timer job, by its name or by its session. -/
def MarksJob (name session : String) : Answered Call.Answer → Prop
  | ⟨.store (.markDelay id), .ok _⟩ => id = name
  | ⟨.store (.markSessionDelays id), .ok _⟩ => id = some session
  | _ => False

namespace Store

/-- A store answers calls one by one. It may fail to answer all but those by which due jobs are listed
and marked, and does nothing then; the clock shows any time, and the services answer anything. -/
inductive Serves : Store → List (Answered Call.Answer) → Store → Prop where
  | nil (store : Store) : Serves store [] store
  | answered {store later : Store} {calls : List (Answered Call.Answer)} {request : StoreCall}
      {reply : Except Fault request.Answer} (stamp : Stamp)
      (answers : (store.answer stamp request).1 = reply)
      (rest : Serves (store.answer stamp request).2 calls later) :
      Serves store (⟨.store request, reply⟩ :: calls) later
  | refused {store later : Store} {calls : List (Answered Call.Answer)} {request : StoreCall}
      (may : request.isOfJobs = false) (fault : Fault) (rest : Serves store calls later) :
      Serves store (⟨.store request, .error fault⟩ :: calls) later
  | clocked {store later : Store} {calls : List (Answered Call.Answer)} (now : Stamp)
      (rest : Serves store calls later) : Serves store (⟨.clock, .ok now⟩ :: calls) later
  | served {store later : Store} {calls : List (Answered Call.Answer)} {request : Call}
      (service : request.isService = true) (reply : Except Fault request.Answer)
      (rest : Serves store calls later) : Serves store (⟨request, reply⟩ :: calls) later

/-- Sessions stand under their identifiers, and none is called by the name of no session. -/
def Named (store : Store) : Prop :=
  ∀ {id : String} {session : Session}, store.getSession id = some session →
    session.id = some id ∧ id ≠ "None"

/-- The name of a job was given out, and is given to no other job. -/
def Issued (store : Store) (name : String) : Prop :=
  ∃ number, number ≤ store.counts.delays ∧ name = rowId "delay" number

variable {store later : Store} {name : String} {row : Delay}

theorem WellFormed.named (sound : WellFormed store) : store.Named := by
  intro id session found
  obtain ⟨number, _, same⟩ := sound.sessionNumbered found
  exact ⟨sound.sessionNamed found, same ▸ rowId_session_ne_none number⟩

theorem Named.answer (named : store.Named) (request : StoreCall) (stamp : Stamp) :
    (store.answer stamp request).2.Named := by
  cases writes : (Call.store request).writesSession with
  | false =>
      intro id session found
      rw [answer_getSession writes] at found
      exact named found
  | true =>
      cases request with
      | createSession session =>
          refine changing_snd Named named fun stored later done => ?_
          have created := createSession_ok done
          intro id other found
          rw [created.rows] at found
          split at found
          · next same =>
              cases found
              rw [created.row, ← same]
              exact ⟨rfl, rowId_session_ne_none _⟩
          · exact named found
      | updateSession session expected =>
          refine changing_snd Named named fun stored later done => ?_
          have updated := updateSession_ok done
          intro id other found
          rw [updated.rows] at found
          split at found
          · next same =>
              cases found
              obtain ⟨current, present, _⟩ := updated.found
              have real := (named present).2
              rw [same] at real
              refine ⟨?_, real⟩
              rw [updated.row]
              -- a session without an identifier would be called by the name that no row has
              cases known : session.id with
              | none =>
                  rw [sessionName, known] at same
                  exact absurd same.symm real
              | some given =>
                  rw [sessionName, known] at same
                  exact congrArg some same
          · exact named found
      | _ => cases writes

/-- A call to the store was answered by a store whose sessions are named, or was refused where it may
be. -/
theorem Serves.asked (serves : store.Serves calls later) (named : store.Named) {request : StoreCall}
    {reply : Except Fault request.Answer} (asked : ⟨.store request, reply⟩ ∈ calls) :
    (∃ (before : Store) (stamp : Stamp), before.Named ∧ (before.answer stamp request).1 = reply) ∨
      request.isOfJobs = false ∧ ∃ fault, reply = .error fault := by
  induction serves with
  | nil => cases asked
  | @answered store later calls first told stamp answers rest ih =>
      rcases List.mem_cons.mp asked with head | tail
      · cases head
        exact Or.inl ⟨store, stamp, named, answers⟩
      · exact ih (named.answer first stamp) tail
  | refused may fault rest ih =>
      rcases List.mem_cons.mp asked with head | tail
      · cases head
        exact Or.inr ⟨may, fault, rfl⟩
      · exact ih named tail
  | clocked now rest ih =>
      rcases List.mem_cons.mp asked with head | tail
      · cases head
      · exact ih named tail
  | served service told rest ih =>
      rcases List.mem_cons.mp asked with head | tail
      · cases head
        cases service
      · exact ih named tail

theorem Serves.told (serves : store.Serves calls later) (named : store.Named) {request : StoreCall}
    {value : request.Answer} (told : ⟨.store request, .ok value⟩ ∈ calls) :
    ∃ (before : Store) (stamp : Stamp), before.Named ∧
      (before.answer stamp request).1 = .ok value := by
  rcases serves.asked named told with answered | ⟨_, _, refused⟩
  · exact answered
  · cases refused

/-- A job is marked by its name whenever this is asked for. -/
theorem Serves.marks (serves : store.Serves calls later) (named : store.Named) (fault : Fault) :
    ⟨.store (.markDelay name), .error fault⟩ ∉ calls := by
  intro asked
  rcases serves.asked named asked with ⟨before, stamp, _, answers⟩ | ⟨may, _⟩
  · cases answers
  · cases may

/-! ### The row of a job -/

theorem Issued.answer (issued : store.Issued name) (request : StoreCall) (stamp : Stamp) :
    (store.answer stamp request).2.Issued name := by
  obtain ⟨number, bound, rfl⟩ := issued
  refine ⟨number, Nat.le_trans bound ?_, rfl⟩
  cases writes : request.writesRows with
  | false => exact Nat.le_of_eq (answer_sameRows writes stamp store).delayCount.symm
  | true =>
      cases request with
      | createSession session =>
          exact changing_snd (fun later => store.counts.delays ≤ later.counts.delays)
            (Nat.le_refl _) fun stored later done => Nat.le_of_eq (createSession_ok done).delayCount.symm
      | updateSession session expected =>
          exact changing_snd (fun later => store.counts.delays ≤ later.counts.delays)
            (Nat.le_refl _) fun stored later done => Nat.le_of_eq (updateSession_ok done).delayCount.symm
      | saveDelay given => exact Nat.le_succ _
      | markDelay id =>
          show store.counts.delays ≤ (store.markDelay id stamp).2.counts.delays
          unfold markDelay
          split <;> exact Nat.le_refl _
      | markSessionDelays id => exact Nat.le_refl _
      | _ => cases writes

theorem Issued.ne_next (issued : store.Issued name) : store.nextDelay ≠ name := by
  obtain ⟨number, bound, rfl⟩ := issued
  intro same
  have equal := rowId_injective same
  omega

/-- What an operation makes of the row of a job: it marks it by its name or by its session, or leaves it
as it is. -/
inductive Turns (name : String) (stamp : Stamp) (row : Delay) : StoreCall → Delay → Prop where
  | left {request : StoreCall} (other : request = .markDelay name → row.processed = true) :
      Turns name stamp row request row
  | byName : Turns name stamp row (.markDelay name) (processed stamp row)
  | bySession : Turns name stamp row (.markSessionDelays (some row.session)) (processed stamp row)

theorem row_answer (issued : store.Issued name) (stands : Table.lookup? name store.delays = some row)
    (request : StoreCall) (stamp : Stamp) :
    ∃ next, Table.lookup? name (store.answer stamp request).2.delays = some next ∧
      Turns name stamp row request next := by
  have kept (same : (store.answer stamp request).2.delays = store.delays)
      (other : request ≠ .markDelay name) :
      ∃ next, Table.lookup? name (store.answer stamp request).2.delays = some next ∧
        Turns name stamp row request next :=
    ⟨row, same ▸ stands, .left fun marks => absurd marks other⟩
  cases writes : request.writesRows with
  | false =>
      apply kept (answer_sameRows writes stamp store).delays
      intro same
      rw [same] at writes
      cases writes
  | true =>
      cases request with
      | createSession session =>
          exact kept (changing_snd (fun later => later.delays = store.delays) rfl
            fun stored later done => (createSession_ok done).delays) nofun
      | updateSession session expected =>
          exact kept (changing_snd (fun later => later.delays = store.delays) rfl
            fun stored later done => (updateSession_ok done).delays) nofun
      | saveDelay given =>
          have found := lookup?_saveDelay name given store
          rw [if_neg issued.ne_next, stands] at found
          exact ⟨row, found, .left nofun⟩
      | markDelay id =>
          have found := lookup?_markDelay name id stamp store
          rw [stands, Option.map_some] at found
          by_cases same : id = name
          · rw [if_pos same] at found
            subst same
            refine ⟨_, found, ?_⟩
            cases marked : row.processed with
            | true => exact .left fun _ => marked
            | false => exact .byName
          · rw [if_neg same] at found
            refine ⟨row, found, .left fun marks => ?_⟩
            cases marks
            exact absurd rfl same
      | markSessionDelays id =>
          have found := lookup?_markSessionDelays name id stamp store
          rw [stands, Option.map_some] at found
          refine ⟨_, found, ?_⟩
          by_cases waits : isWaitingFor id row = true
          · have same : some row.session = id := by
              unfold isWaitingFor at waits
              simp_all
            subst same
            rw [if_pos waits]
            exact .bySession
          · rw [if_neg waits]
            exact .left nofun
      | _ => cases writes

/-- What has become of the row of a job after some calls. -/
structure Kept (name : String) (calls : List (Answered Call.Answer)) (row last : Delay) : Prop where
  processed : row.processed = true → last.processed = true
  unmarked : (∀ entry ∈ calls, ¬MarksJob name row.session entry) → last = row
  marked : ∀ reply, ⟨.store (.markDelay name), .ok reply⟩ ∈ calls → last.processed = true

theorem Kept.cons {last : Delay} (kept : Kept name calls row last) {entry : Answered Call.Answer}
    (other : ∀ reply, entry ≠ ⟨.store (.markDelay name), .ok reply⟩) :
    Kept name (entry :: calls) row last where
  processed := kept.processed
  unmarked spared := kept.unmarked fun given member => spared given (List.mem_cons_of_mem _ member)
  marked reply told := by
    rcases List.mem_cons.mp told with head | tail
    · exact absurd head.symm (other reply)
    · exact kept.marked reply tail

theorem Serves.kept (serves : store.Serves calls later) (issued : store.Issued name)
    (stands : Table.lookup? name store.delays = some row) :
    ∃ last, Table.lookup? name later.delays = some last ∧ Kept name calls row last := by
  induction serves generalizing row with
  | nil => exact ⟨row, stands, id, fun _ => rfl, fun _ told => nomatch told⟩
  | @answered store later calls request reply stamp answers rest ih =>
      obtain ⟨next, present, turns⟩ := row_answer issued stands request stamp
      obtain ⟨last, found, kept⟩ := ih (issued.answer request stamp) present
      refine ⟨last, found, fun marked => ?_, fun spared => ?_, fun value told => ?_⟩
      · cases turns with
        | left other => exact kept.processed marked
        | byName => exact kept.processed rfl
        | bySession => exact kept.processed rfl
      · cases turns with
        | left other =>
            exact kept.unmarked fun entry member => spared entry (List.mem_cons_of_mem _ member)
        | byName =>
            cases answers
            exact absurd rfl (spared _ List.mem_cons_self)
        | bySession =>
            cases answers
            exact absurd rfl (spared _ List.mem_cons_self)
      · rcases List.mem_cons.mp told with head | tail
        · cases head
          cases turns with
          | left other => exact kept.processed (other rfl)
          | byName => exact kept.processed rfl
        · exact kept.marked value tail
  | refused may fault rest ih =>
      obtain ⟨last, found, kept⟩ := ih issued stands
      exact ⟨last, found, kept.cons fun reply same => nomatch same⟩
  | clocked now rest ih =>
      obtain ⟨last, found, kept⟩ := ih issued stands
      exact ⟨last, found, kept.cons fun reply same => nomatch same⟩
  | served service reply rest ih =>
      obtain ⟨last, found, kept⟩ := ih issued stands
      refine ⟨last, found, kept.cons fun value same => ?_⟩
      cases same
      cases service

end Store

/-! ### Marks among calls -/

def Call.marksJobs : Call → Bool
  | .store (.markDelay _) | .store (.markSessionDelays _) => true
  | _ => false

def MarksNone (calls : List (Answered Call.Answer)) : Prop :=
  ∀ entry ∈ calls, entry.request.marksJobs = false

/-- Jobs are not marked one by one, but with their sessions after these were written. This is done for
some sessions only, and only on the way to a goal. -/
structure MarksOnly (owns : Option String → Prop) (reached : Prop)
    (calls : List (Answered Call.Answer)) : Prop where
  single : ∀ name reply, ⟨.store (.markDelay name), reply⟩ ∉ calls
  own : ∀ id count, ⟨.store (.markSessionDelays id), .ok count⟩ ∈ calls →
    reached ∧ ∃ written expected stored,
      ⟨.store (.updateSession written expected), .ok stored⟩ ∈ calls ∧ owns written.id ∧ stored.id = id

theorem marksJobs_of_isStore {request : Call} (service : request.isStore = false) :
    request.marksJobs = false := by
  cases request with
  | store request => cases service
  | clock | complete | http | history | deliver | sleep => rfl

section

variable {owns : Option String → Prop} {reached : Prop} {earlier later : List (Answered Call.Answer)}

theorem MarksNone.only (silent : MarksNone calls) : MarksOnly owns reached calls where
  single _ _ member := nomatch silent _ member
  own _ _ member := nomatch silent _ member

theorem MarksOnly.mono {owns' : Option String → Prop} {reached' : Prop}
    (marks : MarksOnly owns reached calls) (wider : ∀ id, owns id → owns' id)
    (farther : reached → reached') : MarksOnly owns' reached' calls where
  single := marks.single
  own id count member := by
    obtain ⟨there, written, expected, stored, told, owner, same⟩ := marks.own id count member
    exact ⟨farther there, written, expected, stored, told, wider _ owner, same⟩

theorem MarksOnly.append (first : MarksOnly owns reached earlier)
    (second : MarksOnly owns reached later) : MarksOnly owns reached (earlier ++ later) where
  single name reply member := by
    rcases List.mem_append.mp member with early | late
    · exact first.single name reply early
    · exact second.single name reply late
  own id count member := by
    rcases List.mem_append.mp member with early | late
    · obtain ⟨there, written, expected, stored, told, rest⟩ := first.own id count early
      exact ⟨there, written, expected, stored, List.mem_append_left _ told, rest⟩
    · obtain ⟨there, written, expected, stored, told, rest⟩ := second.own id count late
      exact ⟨there, written, expected, stored, List.mem_append_right _ told, rest⟩

theorem MarksOnly.cons {entry : Answered Call.Answer} (silent : entry.request.marksJobs = false)
    (marks : MarksOnly owns reached later) : MarksOnly owns reached (entry :: later) := by
  have first : MarksNone [entry] := fun other member => List.mem_singleton.mp member ▸ silent
  exact first.only.append marks

end

/-! ### Marks in a run -/

namespace Run

variable {settings : EngineSettings} {session : Session}

theorem finish_marks {progress : Progress} {outcome : Outcome} {reason : String}
    {subject : TraceSubject} {now : Stamp} {result : Except Fault Commit}
    (ran : Transcript (commit.finish progress (placed session progress) outcome reason subject now)
      calls result) :
    MarksOnly (· = session.id) (∃ commit, result = .ok commit) calls := by
  unfold commit.finish at ran
  rcases store_first ran with ⟨stored, later, rfl, marking⟩ | ⟨fault, rfl, rfl⟩
  · rcases stored_first marking with ⟨count, last, rfl, ended⟩ | ⟨fault, rfl, rfl⟩
    · obtain ⟨rfl, rfl⟩ := Transcript.of_done ended
      refine ⟨by simp, fun id marked member => ⟨⟨_, rfl⟩, ?_⟩⟩
      have same : id = stored.id := by
        rcases List.mem_cons.mp member with head | tail
        · cases head
        · cases List.mem_singleton.mp tail
          rfl
      exact ⟨_, _, stored, List.mem_cons_self, rfl, same.symm⟩
    · refine ⟨by simp, fun id marked member => ?_⟩
      rcases List.mem_cons.mp member with head | tail
      · cases head
      · cases List.mem_singleton.mp tail
  · exact ⟨by simp, by simp⟩

theorem commit_marks {decision : Decision} {progress : Progress} {result : Except Fault Commit}
    (ran : Transcript (commit session decision progress) calls result) :
    MarksOnly (· = session.id) (∃ commit, result = .ok commit) calls := by
  unfold commit at ran
  rcases now_first ran with ⟨now, later, rfl, deciding⟩ | ⟨fault, rfl, rfl⟩
  · refine MarksOnly.cons rfl ?_
    cases decision with
    | terminate outcome reason => exact finish_marks deciding
    | advance target handle => exact finish_marks deciding
    | awaitInput kind =>
        rcases store_first deciding with ⟨stored, last, rfl, ended⟩ | ⟨fault, rfl, rfl⟩
        · obtain ⟨rfl, rfl⟩ := Transcript.of_done ended
          exact ⟨by simp, by simp⟩
        · exact ⟨by simp, by simp⟩
    | suspend resumeAt =>
        rcases Transcript.of_bind deciding with ⟨job, earlier, last, rfl, made, saving⟩ |
          ⟨fault, made, rfl⟩
        · obtain ⟨rfl, _⟩ := Transcript.of_ofExcept made
          rcases stored_first saving with ⟨saved, last, rfl, writing⟩ | ⟨fault, rfl, rfl⟩
          · rcases store_first writing with ⟨stored, last, rfl, ended⟩ | ⟨fault, rfl, rfl⟩
            · obtain ⟨rfl, rfl⟩ := Transcript.of_done ended
              exact ⟨by simp, by simp⟩
            · exact ⟨by simp, by simp⟩
          · exact ⟨by simp, by simp⟩
        · obtain ⟨rfl, _⟩ := Transcript.of_ofExcept made
          exact ⟨by simp, by simp⟩
  · exact ⟨by simp, by simp⟩

theorem flush_marksNone {rows : List LogEntry} {result : Except Fault Unit}
    (ran : Transcript (Engine.flush rows) calls result) : MarksNone calls := by
  have makes : Makes (fun request => request.marksJobs = false) (Engine.flush rows) :=
    Engine.flush_makes rfl
  exact makes.all ran

theorem decide_marksNone {flow : Option Flow} {inboundText : Option String} {isResume : Bool}
    {result : Except Fault (Decision × Progress)}
    (ran : Transcript (decide settings flow session inboundText isResume) calls result) :
    MarksNone calls := by
  intro entry member
  apply marksJobs_of_isStore
  exact ran.allowed (decide_follows flow inboundText isResume []) entry member

/-- A run marks no jobs but those of its session, and only where it comes to a report. -/
theorem run_marks {inboundText : Option String} {isResume : Bool} {given : Option Flow}
    {result : Except Fault EventReport}
    (ran : Transcript (run settings session inboundText isResume given) calls result) :
    MarksOnly (· = session.id) (∃ report, result = .ok report) calls := by
  unfold run at ran
  extract_lets proceed at ran
  have going {flow : Option Flow} {later : List (Answered Call.Answer)}
      (rest : Transcript (proceed flow) later result) :
      MarksOnly (· = session.id) (∃ report, result = .ok report) later := by
    rcases Transcript.of_bind rest with ⟨⟨decision, last⟩, walking, others, rfl, decided, storing⟩ |
      ⟨fault, decided, rfl⟩
    · refine (decide_marksNone decided).only.append ?_
      rcases Transcript.of_bind storing with ⟨outcome, saving, final, rfl, tried, ending⟩ |
        ⟨fault, tried, _⟩
      · obtain ⟨inner, same, saved⟩ := Transcript.of_outcome tried
        cases same
        have marks := commit_marks saved
        cases outcome with
        | error fault =>
            -- nothing was marked where storing the decision has failed
            have none_ : MarksOnly (· = session.id) (∃ report, result = .ok report) saving :=
              marks.mono (fun _ same => same) fun reached => by
                obtain ⟨commit, same⟩ := reached
                cases same
            rcases Transcript.of_bind ending with ⟨_, logs, done, rfl, logged, failed⟩ | ⟨_, logged, _⟩
            · obtain ⟨rfl, _⟩ := Transcript.of_fail failed
              rw [List.append_nil]
              exact none_.append (flush_marksNone logged).only
            · cases Engine.flush_result logged
        | ok commit =>
            rcases Transcript.of_bind ending with ⟨_, sending, last, rfl, sent, logging⟩ | ⟨_, sent, _⟩
            · have apart : MarksNone sending := fun entry member =>
                marksJobs_of_isStore (sent.allowed (Effect.dispatchAll_always _ _ _ []) entry member)
              rcases Transcript.of_bind logging with ⟨_, logs, rest, rfl, logged, done⟩ | ⟨_, logged, _⟩
              · obtain ⟨rfl, rfl⟩ := Transcript.of_done done
                rw [List.append_nil]
                refine (marks.mono (fun _ same => same) fun _ => ⟨_, rfl⟩).append ?_
                exact apart.only.append (flush_marksNone logged).only
              · cases Engine.flush_result logged
            · cases (Effect.dispatchAll_carriedOut sent).2
      · obtain ⟨_, same, _⟩ := Transcript.of_outcome tried
        cases same
    · exact (decide_marksNone decided).only
  cases given with
  | some flow => exact going ran
  | none =>
      rcases store_first ran with ⟨flow, later, rfl, rest⟩ | ⟨fault, rfl, rfl⟩
      · exact MarksOnly.cons rfl (going rest)
      · exact ⟨by simp, by simp⟩

end Run

/-! ### Marks in a timer event -/

namespace Event

variable {settings : EngineSettings} {result : Except Fault EventReport}

/-- A timer event marks no jobs but those of its session, which it has read, and only where it comes to
something. -/
def MarksOwn (session : String) (calls : List (Answered Call.Answer))
    (result : Except Fault EventReport) : Prop :=
  MarksOnly (fun id => ∃ found, ⟨.store (.getSession session), .ok (some found)⟩ ∈ calls ∧ found.id = id)
    (¬Fruitless result) calls

theorem run_not_fruitless {session : Session} {inboundText : Option String} {isResume : Bool}
    {given : Option Flow} {report : EventReport}
    (ran : Transcript (Run.run settings session inboundText isResume given) calls (.ok report)) :
    ¬Fruitless (.ok report) := by
  intro fruitless
  have conflict : report.status = .conflict := fruitless
  cases Run.run_course ran with
  | settled approach quiet closing effects carried apart quietly status about =>
      rw [conflict] at status
      cases status

theorem Twofold.marksOwn {session : String} (twofold : Twofold (MarksOwn session) calls result) :
    MarksOwn session calls result := by
  cases twofold with
  | once attempt => exact attempt
  | twice first conflict second =>
      refine MarksOnly.append (first.mono (fun id owns => ?_) fun reached => ?_)
        (second.mono (fun id owns => ?_) fun reached fruitless => ?_)
      · obtain ⟨found, told, same⟩ := owns
        exact ⟨found, List.mem_append_left _ told, same⟩
      · exact absurd (fruitless_error _) reached
      · obtain ⟨found, told, same⟩ := owns
        exact ⟨found, List.mem_append_right _ told, same⟩
      · exact reached (fruitless_of_settled fruitless)

theorem resume_marksOwn {conversation session node : String}
    (ran : Transcript (resume settings conversation session node) calls result) :
    MarksOwn session calls result := by
  refine ((withRetry_twofold ran).mono fun calls result attempt => ?_).marksOwn
  rcases store_first attempt with ⟨found, later, rfl, rest⟩ | ⟨fault, rfl, rfl⟩
  · have looked (looks : MarksNone later) :
        MarksOwn session (⟨.store (.getSession session), .ok found⟩ :: later) result :=
      MarksNone.only (List.forall_mem_cons.mpr ⟨rfl, looks⟩)
    cases found with
    | none =>
        obtain ⟨rfl, rfl⟩ := Transcript.of_done rest
        exact looked fun _ member => nomatch member
    | some found =>
        have moved {looking moving : List (Answered Call.Answer)}
            (looks : MarksNone looking) (same : later = looking ++ moving)
            (ran : Transcript (Run.run settings found none true none) moving result) :
            MarksOwn session (⟨.store (.getSession session), .ok (some found)⟩ :: later) result := by
          rw [same, ← List.cons_append]
          refine MarksOnly.append (MarksNone.only (List.forall_mem_cons.mpr ⟨rfl, looks⟩)) ?_
          refine (Run.run_marks ran).mono (fun id owner => ?_) fun reached => ?_
          · exact ⟨found, List.mem_cons_self, owner.symm⟩
          · obtain ⟨report, rfl⟩ := reached
            exact run_not_fruitless ran
        have still {report : EventReport} (done : Transcript (pure report) later result) :
            MarksOwn session (⟨.store (.getSession session), .ok (some found)⟩ :: later) result := by
          obtain ⟨rfl, _⟩ := Transcript.of_done done
          exact looked fun _ member => nomatch member
        dsimp only at rest
        split at rest
        · exact still rest
        · split at rest
          · exact still rest
          · split at rest
            · exact still rest
            · split at rest
              · exact @moved [] later (fun _ member => nomatch member) rfl rest
              · rcases now_first rest with ⟨now, last, rfl, going⟩ | ⟨fault, rfl, rfl⟩
                · have clock : MarksNone [⟨.clock, .ok now⟩] := by simp [MarksNone, Call.marksJobs]
                  split at going
                  · obtain ⟨rfl, _⟩ := Transcript.of_fail going
                    exact looked clock
                  · obtain ⟨rfl, _⟩ := Transcript.of_done going
                    exact looked clock
                  · exact moved clock rfl going
                · exact looked (by simp [MarksNone, Call.marksJobs])
  · exact MarksNone.only (by simp [MarksNone, Call.marksJobs])

/-- Among the calls that a store with named sessions has answered, the marks of a timer event are those
of jobs of its session. -/
theorem MarksOwn.session {store later : Store} {session : String} {all : List (Answered Call.Answer)}
    (marks : MarksOwn session calls result) (within : ∀ entry ∈ calls, entry ∈ all)
    (serves : store.Serves all later) (named : store.Named) {id : Option String} {count : Nat}
    (told : ⟨.store (.markSessionDelays id), .ok count⟩ ∈ calls) :
    id = some session ∧ ¬Fruitless result := by
  obtain ⟨reached, written, expected, stored, wrote, ⟨found, read, owner⟩, same⟩ :=
    marks.own id count told
  obtain ⟨before, stamp, known, answers⟩ := serves.told named (within _ read)
  have stands : before.getSession session = some found := Except.ok.inj answers
  obtain ⟨store, time, _, writes⟩ := serves.told named (within _ wrote)
  have updated := Store.updateSession_ok (Store.changing_ok writes)
  refine ⟨?_, reached⟩
  rw [← same, updated.row]
  exact owner.symm.trans (known stands).1

end Event

end ChatFlow

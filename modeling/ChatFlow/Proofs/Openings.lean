import ChatFlow.Proofs.EventDelivery
import ChatFlow.Proofs.Journeys
/-
How events come to run sessions. A session is run when it has been created, when it waits for a reply
and a message comes, or when it waits for its timer and that fires. Outside of its runs an event tells
of no moves, and a run that gives a report is the last thing in its event.
-/

set_option autoImplicit false

namespace ChatFlow

open Program

variable {settings : EngineSettings} {calls told : List (Answered Call.Answer)}

/-! ### Answers of a store -/

/-- What was told is what a store in good shape answers, and the clock was never refused. -/
structure Truthful (calls : List (Answered Call.Answer)) : Prop where
  store : ∀ {request value}, ⟨.store request, .ok value⟩ ∈ calls →
    ∃ (store : Store) (stamp : Stamp), store.WellFormed ∧
      (store.answer stamp request).1 = .ok value
  clock : ∀ {fault}, ⟨.clock, .error fault⟩ ∉ calls

theorem Truthful.of_subset {others : List (Answered Call.Answer)} (truthful : Truthful calls)
    (subset : others ⊆ calls) : Truthful others :=
  ⟨fun member => truthful.store (subset member), fun member => truthful.clock (subset member)⟩

theorem Truthful.cons {entry : Answered Call.Answer} (truthful : Truthful calls)
    (store : ∀ request value, entry = ⟨.store request, .ok value⟩ →
      ∃ (store : Store) (stamp : Stamp), store.WellFormed ∧
        (store.answer stamp request).1 = .ok value)
    (clock : ∀ fault, entry ≠ ⟨.clock, .error fault⟩) : Truthful (entry :: calls) where
  store member := (List.mem_cons.mp member).elim (fun head => store _ _ head.symm) truthful.store
  clock member := (List.mem_cons.mp member).elim (fun head => clock _ head.symm) truthful.clock

namespace Workplace

variable {ι : Type} {place : Workplace ι}

/-- Whatever others do meanwhile, a worker is told what the store answers when it is asked. -/
theorem Reached.truthful (reached : Reached place) (index : ι) :
    Truthful (place.worker index).past := by
  have unasked : Truthful [] := ⟨fun member => (nomatch member), fun member => nomatch member⟩
  have turned {before after : Workplace ι} {mover : ι} {worker : Worker}
      (known : Truthful (before.worker index).past) (turn : Turn before after mover worker)
      (moved : index = mover → Truthful worker.past) : Truthful (after.worker index).past := by
    by_cases own : index = mover
    · rw [own, turn.1]
      exact moved own
    · rw [turn.2 index own]
      exact known
  induction reached with
  | start time => exact unasked
  | step reached step ih =>
      cases step with
      | tick later => exact ih
      | begin settings operation idle same turn => exact turned ih turn fun _ => unasked
      | answer calls answers turn =>
          refine turned ih turn fun own => Truthful.cons ?_ (fun asked value same => ?_)
            fun fault same => ?_
          · rw [own, calls] at ih
            exact ih
          · cases same
            obtain ⟨stamp, told, _⟩ := answers
            exact ⟨_, stamp, reached.informed.shape, told.symm⟩
          · cases same
            cases answers.1
      | refuse calls same turn =>
          refine turned ih turn fun own => Truthful.cons ?_ (fun asked value same => nomatch same)
            fun fault same => nomatch same
          rw [own, calls] at ih
          exact ih

end Workplace

/-! ### Openings -/

/-- How an event comes to run a session, after some calls: with the text of a message or without, from
the beginning of a given flow or resuming the node where the session waits. -/
inductive Stimulus.Opens (calls : List (Answered Call.Answer)) :
    Stimulus → Session → Option String → Bool → Option Flow → Prop where
  | created {stimulus : Stimulus} {flow : Flow} {start : Event.Opening} {now : Stamp}
      {given session : Session} (new : Event.newSession flow start now = .ok given)
      (stored : ⟨.store (.createSession given), .ok session⟩ ∈ calls) :
      Opens calls stimulus session start.inboundText false (some flow)
  | replied {message : InboundMessage} {session : Session}
      (stood : ⟨.store (.activeSession message.conversation), .ok (some session)⟩ ∈ calls)
      (waits : session.status = .awaitingInput) :
      Opens calls (.inbound message) session message.text true none
  | fired {conversation id node : String} {session : Session}
      (stood : ⟨.store (.getSession id), .ok (some session)⟩ ∈ calls)
      (active : session.isActive = true) (waits : session.status = .awaitingTimer)
      (here : session.currentNode = node) :
      Opens calls (.resume conversation id node) session none true none

namespace Stimulus.Opens

variable {stimulus : Stimulus} {session : Session} {inboundText : Option String} {isResume : Bool}
  {given : Option Flow}

theorem mono (opens : Opens calls stimulus session inboundText isResume given) (subset : calls ⊆ told) :
    Opens told stimulus session inboundText isResume given := by
  cases opens with
  | created new stored => exact .created new (subset stored)
  | replied stood waits => exact .replied (subset stood) waits
  | fired stood active waits here => exact .fired (subset stood) active waits here

/-- A session that is run has been stored. -/
theorem named (opens : Opens calls stimulus session inboundText isResume given)
    (truthful : Truthful calls) : session.id.isSome = true := by
  cases opens with
  | created new stored =>
      obtain ⟨store, stamp, _, answered⟩ := truthful.store stored
      rw [(Store.createSession_ok (Store.changing_ok answered)).row]
      rfl
  | replied stood waits =>
      obtain ⟨store, stamp, sound, answered⟩ := truthful.store stood
      obtain ⟨⟨id, stands⟩, _⟩ := (sound.activeSession_iff _ session).mp (Except.ok.inj answered)
      rw [sound.sessionNamed stands]
      rfl
  | fired stood active waits here =>
      obtain ⟨store, stamp, sound, answered⟩ := truthful.store stood
      rw [sound.sessionNamed (Except.ok.inj answered)]
      rfl

/-- A session that is not resumed begins at the start of the flow that is given. -/
theorem begins (opens : Opens calls stimulus session inboundText false given)
    (truthful : Truthful calls) : session.currentNode = Node.startId ∧ given.isSome = true := by
  cases opens with
  | @created _ flow start now fresh session new stored =>
      obtain ⟨store, stamp, _, answered⟩ := truthful.store stored
      rw [(Store.createSession_ok (Store.changing_ok answered)).row]
      unfold Event.newSession at new
      cases named : flow.id with
      | none =>
          rw [named] at new
          cases new
      | some id =>
          rw [named] at new
          cases new
          exact ⟨rfl, rfl⟩

end Stimulus.Opens

/-! ### The runs of an event -/

namespace Event

variable {stimulus : Stimulus} {outcome : Except Fault EventReport}

/-- A call outside of runs that tells of no move. -/
structure IsStill (request : Call) : Prop extends IsErrand request where
  unmoved : ∀ rows, request = .store (.saveLogs rows) → movesOf rows = []

/-- An event with the runs in it. Other calls tell of no moves; an event reports what a run reports,
and reports of a session as run only so. -/
structure Comprises (calls : List (Answered Call.Answer)) (outcome : Except Fault EventReport)
    (runs : List (Ran settings)) : Prop where
  within : ∀ run ∈ runs, run.calls <:+: calls
  others : ∀ entry ∈ calls, IsStill entry.request ∨ ∃ run ∈ runs, entry ∈ run.calls
  ends : ∀ run ∈ runs, ∀ report, run.result = .ok report → outcome = .ok report
  reports : ∀ report, outcome = .ok report → report.status.isOfRun = true →
    ∃ run ∈ runs, run.result = .ok report

/-- A run is one that a stimulus opens after some calls. -/
def Ran.OpenedBy (run : Ran settings) (stimulus : Stimulus) (calls : List (Answered Call.Answer)) :
    Prop :=
  stimulus.Opens calls run.session run.inboundText run.isResume run.given

/-- Some calls with their outcome are those of an event, or of a part of it before which some others
were made. -/
def Unrolls (settings : EngineSettings) (stimulus : Stimulus)
    (told calls : List (Answered Call.Answer)) (outcome : Except Fault EventReport) : Prop :=
  ∃ runs : List (Ran settings), Comprises calls outcome runs ∧
    ∀ run ∈ runs, run.OpenedBy stimulus (told ++ calls)

namespace Unrolls

theorem still (still : ∀ entry ∈ calls, IsStill entry.request)
    (apart : ∀ report, outcome = .ok report → report.status.isOfRun = false) :
    Unrolls settings stimulus told calls outcome := by
  refine ⟨[], ⟨fun _ member => (nomatch member), fun entry member => Or.inl (still entry member),
    fun _ member => (nomatch member), fun report same status => ?_⟩, fun _ member => nomatch member⟩
  rw [apart report same] at status
  cases status

theorem after {looking : List (Answered Call.Answer)}
    (rest : Unrolls settings stimulus (told ++ looking) calls outcome)
    (still : ∀ entry ∈ looking, IsStill entry.request) :
    Unrolls settings stimulus told (looking ++ calls) outcome := by
  obtain ⟨runs, comprises, opened⟩ := rest
  refine ⟨runs, ⟨fun run member => ?_, fun entry member => ?_, comprises.ends, comprises.reports⟩,
    fun run member => ?_⟩
  · exact (comprises.within run member).trans (List.suffix_append looking calls).isInfix
  · rcases List.mem_append.mp member with looked | later
    · exact Or.inl (still entry looked)
    · exact comprises.others entry later
  · rw [← List.append_assoc]
    exact opened run member

theorem run (run : Ran settings) (opened : run.OpenedBy stimulus told) :
    Unrolls settings stimulus told run.calls run.result := by
  refine ⟨[run], ⟨?_, fun entry member => Or.inr ⟨run, List.mem_singleton_self run, member⟩, ?_, ?_⟩,
    ?_⟩
  · exact List.forall_mem_singleton.mpr (List.infix_refl run.calls)
  · exact List.forall_mem_singleton.mpr fun _ same => same
  · exact fun report same _ => ⟨run, List.mem_singleton_self run, same⟩
  · exact List.forall_mem_singleton.mpr (opened.mono (List.subset_append_left told run.calls))

/-- A second attempt, after one that has met another writer. -/
theorem again {earlier later : List (Answered Call.Answer)} {fault : Fault}
    (first : Unrolls settings stimulus told earlier (.error fault))
    (second : Unrolls settings stimulus told later outcome) :
    Unrolls settings stimulus told (earlier ++ later) (settled outcome) := by
  obtain ⟨runs, comprises, opened⟩ := first
  obtain ⟨others, comprises', opened'⟩ := second
  refine ⟨runs ++ others, ⟨?_, fun entry member => ?_, ?_, fun report same status => ?_⟩, ?_⟩
  · refine List.forall_mem_append.mpr ⟨fun run member => ?_, fun run member => ?_⟩
    · exact (comprises.within run member).trans (List.prefix_append earlier later).isInfix
    · exact (comprises'.within run member).trans (List.suffix_append earlier later).isInfix
  · rcases List.mem_append.mp member with early | late
    · refine (comprises.others entry early).imp_right fun ⟨run, among, own⟩ => ?_
      exact ⟨run, List.mem_append_left others among, own⟩
    · refine (comprises'.others entry late).imp_right fun ⟨run, among, own⟩ => ?_
      exact ⟨run, List.mem_append_right runs among, own⟩
  · refine List.forall_mem_append.mpr ⟨fun run member report same => ?_,
      fun run member report same => ?_⟩
    · cases comprises.ends run member report same
    · rw [comprises'.ends run member report same]
      rfl
  · cases outcome with
    | ok given =>
        obtain ⟨run, member, given⟩ := comprises'.reports report same status
        exact ⟨run, List.mem_append_right runs member, given⟩
    | error fault =>
        unfold settled at same
        dsimp only at same
        split at same
        · cases same
          cases status
        · cases same
  · refine List.forall_mem_append.mpr ⟨fun run member => ?_, fun run member => ?_⟩
    · exact (opened run member).mono fun entry present => by
        rw [← List.append_assoc]
        exact List.mem_append_left later present
    · refine (opened' run member).mono fun entry present => ?_
      rcases List.mem_append.mp present with before | within
      · exact List.mem_append_left _ before
      · exact List.mem_append_right _ (List.mem_append_right earlier within)

end Unrolls

/-- Whatever a program is answered, after some calls, what it does makes an event. -/
structure Unrolling (settings : EngineSettings) (stimulus : Stimulus)
    (told : List (Answered Call.Answer)) (program : Engine EventReport) : Prop where
  unrolls : ∀ calls outcome, Transcript program calls outcome →
    Unrolls settings stimulus told calls outcome

namespace Unrolling

theorem declines {report : EventReport} (status : report.status.isOfRun = false) :
    Unrolling settings stimulus told (pure report) := by
  constructor
  intro calls outcome ran
  obtain ⟨rfl, rfl⟩ := Transcript.of_done ran
  refine .still (fun _ member => nomatch member) fun other same => ?_
  cases same
  exact status

theorem fails (fault : Fault) : Unrolling settings stimulus told (.fail fault) := by
  constructor
  intro calls outcome ran
  obtain ⟨rfl, rfl⟩ := Transcript.of_fail ran
  exact .still (fun _ member => nomatch member) nofun

theorem runs {session : Session} {inboundText : Option String} {isResume : Bool}
    {given : Option Flow} (opens : stimulus.Opens told session inboundText isResume given) :
    Unrolling settings stimulus told (Run.run settings session inboundText isResume given) :=
  ⟨fun calls outcome ran =>
    .run ⟨session, inboundText, isResume, given, calls, outcome, ran⟩ opens⟩

theorem bind {α : Type} {first : Engine α} {next : α → Engine EventReport}
    (still : Makes IsStill first)
    (rest : ∀ value earlier, Transcript first earlier (.ok value) →
      Unrolling settings stimulus (told ++ earlier) (next value)) :
    Unrolling settings stimulus told (first >>= next) := by
  constructor
  intro calls outcome ran
  rcases Transcript.of_bind ran with ⟨value, earlier, later, rfl, began, going⟩ | ⟨_, began, rfl⟩
  · exact ((rest value earlier began).unrolls later outcome going).after (still.all began)
  · exact .still (still.all began) nofun

theorem asks {request : StoreCall} {next : request.Answer → Engine EventReport}
    (still : IsStill (.store request))
    (rest : ∀ value, Unrolling settings stimulus (told ++ [⟨.store request, .ok value⟩])
      (next value)) :
    Unrolling settings stimulus told (Engine.store request >>= next) := by
  refine Unrolling.bind (.store still) fun value earlier began => ?_
  rw [store_calls began]
  exact rest value

end Unrolling

theorem Twofold.unrolls {attempt : Engine EventReport}
    (twofold : Twofold (Transcript attempt) calls outcome)
    (unrolling : Unrolling settings stimulus told attempt) :
    Unrolls settings stimulus told calls outcome := by
  cases twofold with
  | once ran => exact unrolling.unrolls _ _ ran
  | twice first conflict second =>
      exact (unrolling.unrolls _ _ first).again (unrolling.unrolls _ _ second)

/-! ### The runs of each event -/

/-- A call of the store that saves no trace and writes over no session. -/
theorem still_of_read {request : StoreCall} (reads : request.writesLogs = false)
    (keeps : (Call.store request).isQuiet = true) : IsStill (.store request) := by
  cases request with
  | saveLogs => cases reads
  | updateSession => cases keeps
  | _ => exact ⟨⟨trivial, trivial⟩, fun _ same => nomatch same⟩

theorem clock_still : IsStill .clock := ⟨⟨trivial, trivial⟩, fun _ same => nomatch same⟩

theorem endSession_still (found : Session) (status : SessionStatus) {reason : String}
    (outside : reason = "replaced" ∨ reason = "stale_session") :
    Makes IsStill (endSession found status reason) := by
  refine endSession_makes clock_still (fun now => ⟨⟨?_, trivial⟩, fun _ same => nomatch same⟩)
    (fun _ => ⟨⟨trivial, trivial⟩, fun _ same => nomatch same⟩) fun row complete => ?_
  · exact ⟨found, status, reason, now, rfl, outside⟩
  · refine ⟨⟨trivial, List.forall_mem_singleton.mpr ?_⟩, fun rows same => ?_⟩
    · rw [complete]
      exact LogKind.noConfusion
    · cases same
      exact movesOf_other (by rw [complete]; exact LogKind.noConfusion)

theorem startSession_unrolling (flow : Flow) (start : Opening) :
    Unrolling settings stimulus told (startSession settings flow start) := by
  refine Unrolling.bind (.now clock_still) fun now earlier _ => ?_
  refine Unrolling.bind (.ofExcept _) fun given nothing made => ?_
  obtain ⟨rfl, new⟩ := Transcript.of_ofExcept made
  refine Unrolling.asks (still_of_read rfl rfl) fun stored => ?_
  exact .runs (.created new.symm (List.mem_append_right _ (List.mem_singleton_self _)))

theorem startTriggered_unrolling (message : InboundMessage) :
    Unrolling settings stimulus told (startTriggered settings message) := by
  have looking : Makes IsStill
      (Trigger.flowFor message.organization message.connection message.text) := by
    unfold Trigger.flowFor
    dsimp only
    split
    · exact .done _
    · exact (Makes.store (still_of_read rfl rfl)).bind fun _ => .ofExcept _
  refine Unrolling.bind looking fun flow earlier _ => ?_
  cases flow with
  | none => exact .declines rfl
  | some flow => exact startSession_unrolling flow _

theorem handleOnSession_unrolling {message : InboundMessage} {session : Session}
    (stood : ⟨.store (.activeSession message.conversation), .ok (some session)⟩ ∈ told) :
    Unrolling settings (.inbound message) told (handleOnSession settings message session) := by
  unfold handleOnSession
  dsimp only
  split
  · exact .declines rfl
  · split
    · refine Unrolling.bind (.now clock_still) fun now earlier _ => ?_
      split
      · exact .fails _
      · split
        · exact .declines rfl
        · refine Unrolling.bind (endSession_still session .failed (Or.inr rfl)).discarded
            fun _ later _ => ?_
          exact startTriggered_unrolling message
    · next waits => exact .runs (.replied stood waits)
    · exact .declines rfl

theorem attempt_unrolling (message : InboundMessage) :
    Unrolling settings (.inbound message) told (attempt settings message) := by
  refine Unrolling.asks (still_of_read rfl rfl) fun found => ?_
  cases found with
  | some session =>
      exact handleOnSession_unrolling (List.mem_append_right _ (List.mem_singleton_self _))
  | none => exact startTriggered_unrolling message

theorem resume_unrolls {conversation id node : String}
    (ran : Transcript (resume settings conversation id node) calls outcome) :
    Unrolls settings (.resume conversation id node) [] calls outcome := by
  refine (withRetry_twofold ran).unrolls ?_
  refine Unrolling.asks (still_of_read rfl rfl) fun found => ?_
  cases found with
  | none => exact .declines rfl
  | some found =>
      dsimp only
      split
      · exact .declines rfl
      · split
        · exact .declines rfl
        · next waiting =>
            rw [Bool.or_eq_true, Bool.not_eq_true', decide_eq_true_eq, not_or, Decidable.not_not,
              Bool.not_eq_false] at waiting
            split
            · exact .declines rfl
            · next here =>
                have opens {later : List (Answered Call.Answer)} :
                    Stimulus.Opens ([⟨.store (.getSession id), .ok (some found)⟩] ++ later)
                      (.resume conversation id node) found none true none :=
                  .fired List.mem_cons_self waiting.1 waiting.2 (Decidable.not_not.mp here)
                split
                · exact .runs (@opens [])
                · refine Unrolling.bind (.now clock_still) fun now earlier _ => ?_
                  split
                  · exact .fails _
                  · exact .declines rfl
                  · exact .runs opens

theorem start_unrolls {organization : String} {request : StartRequest} {startedBy : Option String}
    (ran : Transcript (start settings organization request startedBy) calls outcome) :
    Unrolls settings (.start organization request startedBy) [] calls outcome := by
  unfold start at ran
  have still {reply : Except Fault (Option Flow)} :
      ∀ entry ∈ ([⟨.store (.getOwnedFlow organization request.flow), reply⟩] :
        List (Answered Call.Answer)), IsStill entry.request :=
    List.forall_mem_singleton.mpr (still_of_read rfl rfl)
  rcases store_first ran with ⟨flow, later, rfl, rest⟩ | ⟨fault, rfl, rfl⟩
  · cases flow with
    | none =>
        obtain ⟨rfl, rfl⟩ := Transcript.of_fail rest
        exact .still still nofun
    | some flow =>
        dsimp only at rest
        split at rest
        · obtain ⟨rfl, rfl⟩ := Transcript.of_fail rest
          exact .still still nofun
        · refine Unrolls.after ((withRetry_twofold rest).unrolls ?_) still
          refine Unrolling.asks (still_of_read rfl rfl) fun found => ?_
          cases found with
          | some existing =>
              refine Unrolling.bind (endSession_still existing .cancelled (Or.inl rfl)).discarded
                fun _ earlier _ => ?_
              exact startSession_unrolling flow _
          | none => exact startSession_unrolling flow _
  · exact .still still nofun

/-- Whatever an event is told, it comes to its runs as the stimulus opens them. -/
theorem comprised (ran : Transcript (stimulus.program settings) calls outcome) :
    ∃ runs : List (Ran settings), Comprises calls outcome runs ∧
      ∀ run ∈ runs, run.OpenedBy stimulus calls := by
  have unrolls : Unrolls settings stimulus [] calls outcome := by
    cases stimulus with
    | inbound message =>
        unfold Stimulus.program at ran
        dsimp only at ran
        rw [inbound_attempts] at ran
        exact (withRetry_twofold ran).unrolls (attempt_unrolling message)
    | start organization request startedBy => exact start_unrolls ran
    | resume conversation id node => exact resume_unrolls ran
  exact unrolls

end Event

end ChatFlow

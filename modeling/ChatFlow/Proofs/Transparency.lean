import ChatFlow.Proofs.BrokenSearches
import ChatFlow.Proofs.Encounters
import ChatFlow.Proofs.Remnants
/-
A message of which one write of a session meets another writer, once. Where the message has created no
session before that write, the second attempt comes to the very report of an undisturbed message, and
no session is left running on the conversation. Where it has, the second attempt finds the session that
the first one has created, takes it for one that is being run, and ignores the message.
-/

set_option autoImplicit false

namespace ChatFlow

open Program Surroundings

variable {around : Surroundings} {settings : EngineSettings} {solo : Solo}

/-! ### The flow that a message triggers -/

theorem Store.triggerCandidates_fault {store : Store} {organization : String}
    {fault : Fault} (failed : store.triggerCandidates organization = .error fault) :
    fault.isConflict = false := by
  unfold Store.triggerCandidates Store.sortFlows at failed
  split at failed
  · cases failed
  · cases failed
  · split at failed
    · unfold Store.sortLatestFirst at failed
      split at failed <;> cases failed
      rfl
    · cases failed
      rfl

namespace Trigger

theorem flowFor_mild (organization : String) (connection text : Option String) :
    KeepsMild (flowFor organization connection text) := by
  unfold flowFor
  dsimp only
  split
  · exact .done _
  · exact (mild_store rfl).bind fun _ => .ofExcept _

/-- The flow that is found for a message is one of its organization, and where the search fails that
is no conflict. -/
theorem flowFor_carriedOut (around : Surroundings) (organization : String)
    (connection text : Option String) (solo : Solo) :
    (∀ fault, (around.carryOut (flowFor organization connection text) solo).1 = .error fault →
      fault.isConflict = false) ∧
    ∀ flow, (around.carryOut (flowFor organization connection text) solo).1 = .ok (some flow) →
      flow.organization = organization := by
  unfold flowFor
  dsimp only
  split
  · have nothing : around.carryOut (pure none : Engine (Option Flow)) solo = (.ok none, solo) := rfl
    rw [nothing]
    constructor
    · intro fault failed
      cases failed
    · intro flow found
      cases found
  · cases listed : solo.store.triggerCandidates organization with
    | error fault =>
        have refused : around.carryOut (Engine.store (.triggerCandidates organization)) solo =
            (.error fault, _) :=
          (carryOut_read rfl solo).trans (Prod.ext listed rfl)
        rw [carryOut_bind_error refused]
        constructor
        · intro other same
          cases same
          exact Store.triggerCandidates_fault listed
        · intro flow found
          cases found
    | ok flows =>
        have told : around.carryOut (Engine.store (.triggerCandidates organization)) solo =
            (.ok flows, _) :=
          (carryOut_read rfl solo).trans (Prod.ext listed rfl)
        rw [carryOut_bind told]
        unfold carryOut
        rw [run_ofExcept]
        exact ⟨fun _ failed => (first?_error_iff.mp failed).not_conflict,
          fun _ chosen => (Store.mem_of_triggerCandidates listed (Event.first?_mem chosen)).1⟩

end Trigger

/-! ### What was asked and created -/

/-- Whether a call neither asks a service nor creates a session. -/
def Call.isBare : Call → Bool
  | .store (.createSession _) => false
  | .store _ | .clock => true
  | _ => false

/-- No service was asked in the attempt at hand, and no session was created. -/
structure Solo.Untold (solo : Solo) : Prop where
  asked : solo.asked = []
  unopened : ∀ given, .createSession given ∉ solo.before

theorem answer_untold {request : Call} (bare : request.isBare = true) (untold : solo.Untold) :
    (around.answer request solo).2.Untold := by
  cases request with
  | store request =>
      cases met : solo.isMet request with
      | true =>
          rw [answer_met met]
          exact ⟨untold.asked, untold.unopened⟩
      | false =>
          rw [answer_unmet met]
          constructor
          · simp [Solo.after, untold.asked]
          · intro given
            unfold Solo.after
            dsimp only
            split
            · intro member
              rcases List.mem_cons.mp member with rfl | earlier
              · cases bare
              · exact untold.unopened given earlier
            · exact untold.unopened given
  | clock => exact untold
  | complete | http | history | deliver | sleep => cases bare

theorem carryOut_untold {α : Type} {program : Engine α} (around : Surroundings)
    (bare : Makes (fun request => request.isBare = true) program) (untold : solo.Untold) :
    (around.carryOut program solo).2.Untold := by
  have going (program : Engine α) (past : EnginePast)
      (keeps : Keeps (fun _ request => Call.isBare request = true) program past) {solo : Solo}
      (untold : solo.Untold) : (around.carryOut program solo).2.Untold := by
    induction program generalizing past solo with
    | done value => exact untold
    | fail fault => exact untold
    | call request next ih =>
        obtain ⟨first, rest⟩ := keeps.at_call
        exact ih _ _ (rest _) (answer_untold first untold)
  exact going program [] (bare.keeps []) untold

/-! ### Creating and ending sessions -/

/-- No session is active on a conversation of a sound store. -/
structure Solo.Free (solo : Solo) (conversation : String) : Prop where
  sound : solo.store.WellFormed
  free : solo.store.activeSession conversation = none

theorem Solo.Free.spared {later : Solo} {conversation : String} (free : solo.Free conversation)
    (spared : solo.Spared later) : later.Free conversation :=
  ⟨spared.sound free.sound, (spared.alike.activeSession conversation).trans free.free⟩

theorem Solo.Free.calmed {conversation : String} (free : solo.Free conversation) :
    solo.calmed.Free conversation :=
  ⟨free.sound, free.free⟩

theorem Solo.Free.noneRunning {conversation : String} (free : solo.Free conversation) :
    solo.store.NoneRunning conversation := by
  intro session found
  rw [free.free] at found
  cases found

/-- A session was created, and is the active one of its conversation. -/
structure Solo.Opened (session stored : Session) (later : Solo) : Prop where
  row : ∃ id, stored = { session with id := some id } ∧ later.store.getSession id = some stored
  sound : later.store.WellFormed
  active : later.store.activeSession session.conversation = some stored

/-- An active session is created where none is active on its conversation. -/
theorem create_carriedOut {session : Session} (around : Surroundings)
    (free : solo.Free session.conversation) (active : session.isActive = true)
    (unmet : solo.isMet (.createSession session) = false) :
    ∃ stored store, around.answer (.store (.createSession session)) solo =
        (.ok stored, solo.after (.createSession session) store) ∧
      Solo.Opened session stored (solo.after (.createSession session) store) := by
  have unowned := (free.sound.activeSession_eq_none_iff session.conversation).mp free.free
  obtain ⟨stored, store, done⟩ : ∃ stored store,
      solo.store.createSession session = .ok (stored, store) := by
    unfold Store.createSession Table.has
    rw [unowned, active]
    exact ⟨_, _, rfl⟩
  have made := Store.createSession_ok done
  have told : solo.store.answer around.time (.createSession session) = (.ok stored, store) :=
    congrArg (Store.changing solo.store) done
  have answered : around.answer (.store (.createSession session)) solo = _ := answer_unmet unmet
  rw [told] at answered
  have row : store.getSession solo.store.nextSession = some stored :=
    (made.rows _).trans (if_pos rfl)
  refine ⟨stored, store, answered, ⟨_, made.row, row⟩, free.sound.created made, ?_⟩
  refine ((free.sound.created made).activeSession_iff _ _).mpr ⟨⟨_, row⟩, ?_, ?_⟩
  · rw [made.row]
    exact active
  · rw [made.row]

theorem Solo.Opened.ready {session stored : Session} {later : Solo}
    (opened : Solo.Opened session stored later) (active : session.isActive = true)
    (clear : later.clash = none) : later.Ready stored := by
  obtain ⟨id, same, stands⟩ := opened.row
  exact ⟨opened.sound, clear, ⟨id, stands⟩, by rw [same]; exact active⟩

namespace Event

theorem endSession_comes {session : Session} (around : Surroundings) (ready : solo.Ready session)
    (status : SessionStatus) (reason : String) :
    Comes around (endSession session status reason) solo fun _ later =>
      later.clash = none ∧ later.Free session.conversation := by
  refine Comes.bind .now fun now same_ same => ?_
  obtain ⟨rfl, rfl⟩ := same
  refine Comes.bind (.update ready rfl rfl rfl) fun stored later wrote => ?_
  refine Comes.bind (.unused rfl ⟨_, rfl⟩) fun _ marked spared => ?_
  refine (Comes.flush _).bind fun _ last logged => ?_
  have spared := spared.trans logged
  have ended : later.Free session.conversation := ⟨wrote.sound, wrote.active⟩
  exact .done ⟨spared.clash.trans wrote.clear, ended.spared spared⟩

theorem newSession_start {flow : Flow} {start : Opening} {now : Stamp} {session : Session}
    (made : newSession flow start now = .ok session) :
    session.conversation = start.conversation ∧ session.organization = flow.organization ∧
      session.updatedAt = now := by
  unfold newSession at made
  split at made
  · cases made
  · cases made
    exact ⟨rfl, rfl, rfl⟩

theorem newSession_fault {flow : Flow} {start : Opening} {now : Stamp} {fault : Fault}
    (failed : newSession flow start now = .error fault) : fault.isConflict = false := by
  unfold newSession at failed
  split at failed <;> cases failed
  rfl

/-- How a message opens the flow that it triggers. -/
def openingOf (message : InboundMessage) : Opening where
  conversation := message.conversation
  connection := message.connection
  startedBy := none
  bag := contactVariables message.contactName message.contactPhone
  inboundText := message.text

/-- A session is created for a flow and is run. -/
def beginRun (settings : EngineSettings) (message : InboundMessage) (flow : Flow)
    (session : Session) : Engine EventReport := do
  let stored ← Engine.store (.createSession session)
  Run.run settings stored message.text false (some flow)

/-- A message to a conversation where no session is active triggers a flow, or nothing comes of it. -/
inductive Triggers (around : Surroundings) (settings : EngineSettings) (message : InboundMessage)
    (solo : Solo) : Prop where
  | nothing {result : Except Fault EventReport} {later : Solo}
      (ran : around.carryOut (startTriggered settings message) solo = (result, later))
      (spared : solo.Spared later)
      (other : ∀ fault, result = .error fault → fault.isConflict = false)
  | flow {flow : Flow} {session : Session} {later : Solo}
      (found : around.carryOut (Trigger.flowFor message.organization message.connection message.text)
        solo = (.ok (some flow), later))
      (spared : solo.Spared later) (own : flow.organization = message.organization)
      (made : newSession flow (openingOf message) around.time = .ok session)

theorem startTriggered_found {message : InboundMessage} {flow : Flow} {session : Session}
    {later : Solo}
    (found : around.carryOut (Trigger.flowFor message.organization message.connection message.text)
      solo = (.ok (some flow), later))
    (made : newSession flow (openingOf message) around.time = .ok session) :
    around.carryOut (startTriggered settings message) solo =
      around.carryOut (beginRun settings message flow session) later := by
  have given : around.carryOut (Program.ofExcept (newSession flow (openingOf message) around.time))
      later = (.ok session, later) := by
    rw [made]
    rfl
  exact (carryOut_bind found).trans (carryOut_bind given)

theorem startTriggered_triggers (around : Surroundings) (settings : EngineSettings)
    (message : InboundMessage) (solo : Solo) :
    Triggers around settings message solo := by
  have looked := Trigger.flowFor_carriedOut around message.organization message.connection
    message.text solo
  have spared : solo.Spared (around.carryOut
      (Trigger.flowFor message.organization message.connection message.text) solo).2 :=
    carryOut_spared (Trigger.flowFor_mild _ _ _) solo
  generalize found : around.carryOut
    (Trigger.flowFor message.organization message.connection message.text) solo = ended
    at looked spared
  obtain ⟨result, later⟩ := ended
  cases result with
  | error fault =>
      refine .nothing (carryOut_bind_error found) spared fun other same => ?_
      cases same
      exact looked.1 fault rfl
  | ok chosen =>
      cases chosen with
      | none => exact .nothing (carryOut_bind found) spared fun _ same => nomatch same
      | some flow =>
          cases made : newSession flow (openingOf message) around.time with
          | ok session => exact .flow found spared (looked.2 flow rfl) made
          | error fault =>
              have failed : around.carryOut
                  (Program.ofExcept (newSession flow (openingOf message) around.time)) later =
                    (.error fault, later) := by
                rw [made]
                rfl
              have refused : around.carryOut (startSession settings flow (openingOf message)) later =
                  (.error fault, later) := (carryOut_now later).trans (carryOut_bind_error failed)
              refine .nothing ((carryOut_bind found).trans refused) spared fun other same => ?_
              cases same
              exact newSession_fault made

theorem beginRun_comes {message : InboundMessage} {flow : Flow} {session : Session}
    (settings : EngineSettings) (free : solo.Free message.conversation)
    (clear : solo.clash = none)
    (made : newSession flow (openingOf message) around.time = .ok session) :
    Comes around (beginRun settings message flow session) solo fun report later =>
      report.status.isOfRun = true ∧ later.store.NoneRunning message.conversation := by
  obtain ⟨active, _, _⟩ := newSession_ok made
  have place : session.conversation = message.conversation := (newSession_start made).1
  rw [← place] at free ⊢
  obtain ⟨stored, store, told, opened⟩ := create_carriedOut around free active
    (by simp [Solo.isMet, clear])
  have created : Comes around (Engine.store (.createSession session)) solo fun answer later =>
      answer = stored ∧ later = solo.after (.createSession session) store :=
    ⟨stored, _, (@run_perform _ _ _ around.answer (.store _) solo).trans told, rfl, rfl⟩
  refine created.bind fun answer later same => ?_
  obtain ⟨rfl, rfl⟩ := same
  have here : answer.conversation = session.conversation := by
    obtain ⟨id, same, _⟩ := opened.row
    rw [same]
  rw [← here]
  exact Run.run_comes (opened.ready active (by simp [Solo.after, clear]))

/-- How an attempt ends that meets nobody: no session is left running, and where it fails that is no
conflict. -/
structure Settles (conversation : String) (ended : Except Fault EventReport × Solo) : Prop where
  other : ∀ fault, ended.1 = .error fault → fault.isConflict = false
  noneRunning : ended.2.store.NoneRunning conversation

theorem startTriggered_settles {message : InboundMessage} (around : Surroundings)
    (settings : EngineSettings) (free : solo.Free message.conversation)
    (clear : solo.clash = none) :
    Settles message.conversation (around.carryOut (startTriggered settings message) solo) := by
  cases startTriggered_triggers around settings message solo with
  | nothing ran spared other =>
      rw [ran]
      exact ⟨other, (free.spared spared).noneRunning⟩
  | flow found spared own made =>
      obtain ⟨report, last, ran, _, none_⟩ := beginRun_comes settings
        (free.spared spared) (spared.clash.trans clear) made
      rw [startTriggered_found found made, ran]
      refine ⟨fun fault failed => ?_, none_⟩
      cases failed

/-! ### Starting a session while one write is to meet another writer -/

/-- How the start of a session fares: as with one write, or it has created the session and could not
store what its run has decided, which would have gone well. -/
inductive Starts (around : Surroundings) (settings : EngineSettings) (message : InboundMessage)
    (solo : Solo) (ended : Except Fault EventReport × Solo) : Prop where
  | fares (fares : Fares around solo ended)
  | opened {given row : Session} (failed : ended.1 = .error (.conflict around.cause))
      (clear : ended.2.clash = none) (made : .createSession given ∈ ended.2.before)
      (stands : ended.2.store.activeSession message.conversation = some row)
      (running : row.status = .running) (own : row.organization = message.organization)
      (new : row.updatedAt = around.time)
      (plain : ∃ report, (around.carryOut (startTriggered settings message) solo.calmed).1 =
        .ok report ∧ report.status.isOfRun = true)

theorem startTriggered_starts {message : InboundMessage} (around : Surroundings)
    (settings : EngineSettings) (free : solo.Free message.conversation)
    (ahead : solo.clash.isSome = true) :
    Starts around settings message solo
      (around.carryOut (startTriggered settings message) solo) := by
  cases startTriggered_triggers around settings message solo with
  | nothing ran spared other =>
      rw [ran]
      refine .fares (.unmet ?_)
      rw [spared.clash]
      exact ahead
  | @flow flow session later found spared own made =>
      rw [startTriggered_found found made]
      have ahead : later.clash.isSome = true := by
        rw [spared.clash]
        exact ahead
      have place : session.conversation = message.conversation := (newSession_start made).1
      have free := free.spared spared
      unfold beginRun
      cases met : later.isMet (.createSession session) with
      | true =>
          rw [carryOut_store_error (answer_met met)]
          exact .fares (.refused rfl spared.alike rfl spared.before)
      | false =>
          obtain ⟨stored, store, told, opened⟩ := create_carriedOut around
            (place ▸ free) (newSession_ok made).1 met
          rw [carryOut_store told]
          have still : (later.after (.createSession session) store).clash.isSome = true := by
            simp [Solo.after, Call.writesSession, ahead]
          have fares : Fares around _ (around.carryOut
              (Run.run settings stored message.text false (some flow)) _) := Run.run_fares still
          cases fares with
          | unmet ahead => exact .fares (.unmet ahead)
          | refused failed alike clear before =>
              obtain ⟨id, row, _⟩ := opened.row
              have unmet : (around.carryOut (Trigger.flowFor message.organization
                  message.connection message.text) solo).2.clash.isSome = true := by
                rw [found]
                exact ahead
              have calm := carryOut_calmed unmet
              rw [found] at calm
              obtain ⟨report, last, ran, status, _⟩ := beginRun_comes settings
                free.calmed rfl made
              refine @Starts.opened _ _ _ _ _ session stored failed clear ?_ ?_ ?_ ?_ ?_
                ⟨report, ?_, status⟩
              · rw [before]
                unfold Solo.after
                dsimp only
                rw [ahead]
                exact List.mem_cons_self
              · rw [alike.activeSession, ← place]
                exact opened.active
              · rw [row]
                exact (newSession_ok made).2.1
              · rw [row]
                exact (newSession_start made).2.1.trans own
              · rw [row]
                exact (newSession_start made).2.2
              · rw [startTriggered_found calm made, ran]

/-! ### Attempts -/

/-- A session that was left behind is ended, and the flow that a message triggers is started. -/
def replaceStale (settings : EngineSettings) (message : InboundMessage) (session : Session) :
    Engine EventReport := do
  discard (endSession session .failed "stale_session")
  startTriggered settings message

/-- What becomes of a message to a conversation with an active session: it is ignored, or the session
was left behind and another one is started, or the session is run. -/
inductive Handling (around : Surroundings) (settings : EngineSettings) (message : InboundMessage)
    (session : Session) : Prop where
  | ignored (ran : ∀ solo, around.carryOut (handleOnSession settings message session) solo =
      (.ok (EventReport.ofSession .ignored session none), solo))
  | mixed (ran : ∀ solo, around.carryOut (handleOnSession settings message session) solo =
      (.error .mixedClocks, solo))
  | stale (ran : ∀ solo, around.carryOut (handleOnSession settings message session) solo =
      around.carryOut (replaceStale settings message session) solo)
  | waiting (ran : ∀ solo, around.carryOut (handleOnSession settings message session) solo =
      around.carryOut (Run.run settings session message.text true none) solo)

theorem handleOnSession_running {message : InboundMessage} {session : Session}
    (own : session.organization = message.organization) (running : session.status = .running)
    (solo : Solo) :
    around.carryOut (handleOnSession settings message session) solo =
      around.carryOut (match around.time.since? session.updatedAt with
        | none => .fail .mixedClocks
        | some age =>
            if age < staleAfter then return EventReport.ofSession .ignored session none
            else replaceStale settings message session) solo := by
  unfold handleOnSession
  dsimp only
  rw [if_neg (Decidable.not_not.mpr own), running]
  exact carryOut_now solo

theorem handleOnSession_handling (around : Surroundings) (settings : EngineSettings)
    (message : InboundMessage) (session : Session) :
    Handling around settings message session := by
  by_cases own : session.organization = message.organization
  · cases status : session.status with
    | awaitingInput =>
        refine .waiting fun solo => ?_
        unfold handleOnSession
        dsimp only
        rw [if_neg (Decidable.not_not.mpr own), status]
    | running =>
        have looked := @handleOnSession_running around settings message session own status
        cases aged : around.time.since? session.updatedAt with
        | none =>
            rw [aged] at looked
            exact .mixed looked
        | some age =>
            rw [aged] at looked
            dsimp only at looked
            by_cases young : age < staleAfter
            · rw [if_pos young] at looked
              exact .ignored looked
            · rw [if_neg young] at looked
              exact .stale looked
    | awaitingTimer | completed | cancelled | failed =>
        refine .ignored fun solo => ?_
        unfold handleOnSession
        dsimp only
        rw [if_neg (Decidable.not_not.mpr own), status]
        rfl
  · refine .ignored fun solo => ?_
    unfold handleOnSession
    dsimp only
    rw [if_pos own]
    rfl

theorem endSession_bare (session : Session) (status : SessionStatus) (reason : String) :
    Makes (fun request => request.isBare = true) (endSession session status reason) :=
  endSession_makes rfl (fun _ => rfl) (fun _ => rfl) fun _ _ => rfl

theorem replaceStale_settles {message : InboundMessage} {session : Session}
    (ready : solo.Ready session) (here : session.conversation = message.conversation) :
    Settles message.conversation
      (around.carryOut (replaceStale settings message session) solo) := by
  obtain ⟨stored, later, ran, clear, free⟩ :=
    endSession_comes around ready .failed "stale_session"
  have same : around.carryOut (replaceStale settings message session) solo =
      around.carryOut (startTriggered settings message) later := carryOut_bind (carryOut_discard ran)
  rw [same]
  rw [here] at free
  exact startTriggered_settles _ _ free clear

theorem ready_of_active {session : Session} {conversation : String}
    (sound : solo.store.WellFormed) (clear : solo.clash = none)
    (found : solo.store.activeSession conversation = some session) :
    solo.Ready session ∧ session.conversation = conversation := by
  obtain ⟨stands, active, here⟩ := (sound.activeSession_iff conversation session).mp found
  exact ⟨⟨sound, clear, stands, active⟩, here⟩

/-- An attempt that meets nobody fails by no conflict. -/
theorem attempt_other {message : InboundMessage} (sound : solo.store.WellFormed)
    (clear : solo.clash = none) {fault : Fault}
    (failed : (around.carryOut (attempt settings message) solo).1 = .error fault) :
    fault.isConflict = false := by
  rw [attempt_carriedOut] at failed
  cases found : solo.store.activeSession message.conversation with
  | none =>
      rw [found] at failed
      have free : Solo.Free { solo with asked := [] } message.conversation := ⟨sound, found⟩
      exact (startTriggered_settles _ _ free clear).other fault failed
  | some session =>
      rw [found] at failed
      obtain ⟨ready, here⟩ := @ready_of_active { solo with asked := [] } _ _ sound clear found
      have failed : (around.carryOut (handleOnSession settings message session)
        { solo with asked := [] }).1 = .error fault := failed
      cases handleOnSession_handling around settings message session with
      | ignored ran =>
          rw [ran] at failed
          cases failed
      | mixed ran =>
          rw [ran] at failed
          cases failed
          rfl
      | stale ran =>
          rw [ran] at failed
          exact (replaceStale_settles ready here).other fault failed
      | waiting ran =>
          obtain ⟨report, later, done, _⟩ : Comes around
              (Run.run settings session message.text true none) { solo with asked := [] } _ :=
            Run.run_comes ready
          rw [ran, done] at failed
          cases failed

/-! ### Attempts while one write is to meet another writer -/

/-- How an attempt fares: it has met nobody; or it has failed before it created a session, and the next
attempt comes to what an undisturbed one comes to; or it has created a session that is left running,
where an undisturbed attempt comes to the report of a run. -/
inductive Meets (around : Surroundings) (settings : EngineSettings) (message : InboundMessage)
    (solo : Solo) (ended : Except Fault EventReport × Solo) : Prop where
  | unmet (ahead : ended.2.clash.isSome = true)
  | repeated (failed : ended.1 = .error (.conflict around.cause)) (clear : ended.2.clash = none)
      (unopened : ∀ given, .createSession given ∉ ended.2.before)
      (same : (around.carryOut (attempt settings message) ended.2).1 =
        (around.carryOut (attempt settings message) solo.calmed).1)
      (none_ : (around.carryOut (attempt settings message) ended.2).2.store.NoneRunning
        message.conversation)
  | opened {given row : Session} (failed : ended.1 = .error (.conflict around.cause))
      (clear : ended.2.clash = none) (made : .createSession given ∈ ended.2.before)
      (stands : ended.2.store.activeSession message.conversation = some row)
      (running : row.status = .running) (own : row.organization = message.organization)
      (new : row.updatedAt = around.time)
      (plain : ∃ report, (around.carryOut (attempt settings message) solo.calmed).1 =
        .ok report ∧ report.status.isOfRun = true)

/-- Where a refused write was the first one, the next attempt finds what the first one has found. -/
theorem Meets.of_fares {message : InboundMessage} {ended : Except Fault EventReport × Solo}
    (fares : Fares around solo ended) (start : solo.before = [])
    (none_ : (around.carryOut (attempt settings message) solo.calmed).2.store.NoneRunning
      message.conversation) : Meets around settings message solo ended := by
  cases fares with
  | unmet ahead => exact .unmet ahead
  | refused failed alike clear before =>
      have alike : solo.calmed.store.Alike ended.2.store := alike
      obtain ⟨same, twin⟩ := attempt_alike around settings message alike rfl clear
      refine .repeated failed clear (fun given member => ?_) same (twin.alike.noneRunning none_)
      rw [before, start] at member
      cases member

/-- Where the start of a session was refused and no session is active, the next attempt starts one as
an undisturbed one does. -/
theorem attempt_restarts {message : InboundMessage} {last : Solo} (settings : EngineSettings)
    (free : solo.calmed.Free message.conversation) (asked : solo.asked = [])
    (alike : solo.store.Alike last.store) (clear : last.clash = none) :
    (around.carryOut (attempt settings message) last).1 =
        (around.carryOut (startTriggered settings message) solo.calmed).1 ∧
      (around.carryOut (attempt settings message) last).2.store.NoneRunning
        message.conversation := by
  have unowned : last.store.activeSession message.conversation = none :=
    (alike.activeSession _).trans free.free
  have next : around.carryOut (attempt settings message) last =
      around.carryOut (startTriggered settings message) { last with asked := [] } := by
    rw [attempt_carriedOut, unowned]
    rfl
  have twin : solo.calmed.Twin { last with asked := [] } := ⟨alike, asked.symm, rfl, clear⟩
  obtain ⟨same, twin⟩ := (startTriggered_congruent around settings message).twins twin
  have settles := startTriggered_settles around settings free rfl
  rw [next]
  exact ⟨same, twin.alike.noneRunning settles.noneRunning⟩

theorem replaceStale_meets {message : InboundMessage} {session : Session}
    (ready : solo.calmed.Ready session) (here : session.conversation = message.conversation)
    (ahead : solo.clash.isSome = true) (untold : solo.Untold) (start : solo.before = [])
    (calm : around.carryOut (attempt settings message) solo.calmed =
      around.carryOut (replaceStale settings message session) solo.calmed) :
    Meets around settings message solo
      (around.carryOut (replaceStale settings message session) solo) := by
  have fares := endSession_fares around session .failed "stale_session" ahead
  have bare := carryOut_untold around
    (endSession_bare session .failed "stale_session") untold
  generalize ran : around.carryOut (endSession session .failed "stale_session") solo = ended
    at fares bare
  obtain ⟨result, middle⟩ := ended
  cases fares with
  | refused failed alike clear before =>
      cases failed
      have refused : around.carryOut (replaceStale settings message session) solo =
          (.error (.conflict around.cause), middle) :=
        carryOut_bind_error (carryOut_discard_error ran)
      rw [refused]
      refine .of_fares (.refused rfl alike clear before) start ?_
      rw [calm]
      exact (replaceStale_settles ready here).noneRunning
  | unmet ahead =>
      dsimp only at ahead bare
      -- the session has ended as it does in an undisturbed attempt
      have unmet : Option.isSome
          (around.carryOut (endSession session .failed "stale_session") solo).2.clash =
          true := by
        rw [ran]
        exact ahead
      have ended := carryOut_calmed unmet
      rw [ran] at ended
      obtain ⟨stored, later, done, _, free⟩ :=
        endSession_comes around ready .failed "stale_session"
      rw [ended] at done
      cases done
      dsimp only at ended free
      rw [here] at free
      have goes : around.carryOut (replaceStale settings message session) solo =
          around.carryOut (startTriggered settings message) middle :=
        carryOut_bind (carryOut_discard ran)
      have calm := calm.trans (carryOut_bind (carryOut_discard ended))
      rw [goes]
      have vacant : middle.Free message.conversation := ⟨free.sound, free.free⟩
      cases startTriggered_starts around settings vacant ahead with
      | opened failed clear made stands running own new plain =>
          exact .opened failed clear made stands running own new (by rw [calm]; exact plain)
      | fares fares =>
          cases fares with
          | unmet ahead => exact .unmet ahead
          | refused failed alike clear before =>
              obtain ⟨same, none_⟩ := attempt_restarts settings free bare.asked alike clear
              refine .repeated failed clear (fun given => ?_) (by rw [calm]; exact same) none_
              rw [before]
              exact bare.unopened given

theorem attempt_goes (message : InboundMessage) (asked : solo.asked = []) :
    around.carryOut (attempt settings message) solo = around.carryOut
      (handle settings message (solo.store.activeSession message.conversation)) solo := by
  rw [attempt_carriedOut, ← asked]

theorem attempt_meets {message : InboundMessage} (sound : solo.store.WellFormed)
    (ahead : solo.clash.isSome = true) (asked : solo.asked = []) (start : solo.before = []) :
    Meets around settings message solo (around.carryOut (attempt settings message) solo) := by
  have calm : around.carryOut (attempt settings message) solo.calmed = around.carryOut
      (handle settings message (solo.store.activeSession message.conversation)) solo.calmed :=
    attempt_goes message asked
  have untold : solo.Untold := by
    refine ⟨asked, fun given => ?_⟩
    rw [start]
    exact List.not_mem_nil
  rw [attempt_goes message asked]
  cases found : solo.store.activeSession message.conversation with
  | none =>
      rw [found] at calm
      have handled : handle settings message none = startTriggered settings message := rfl
      rw [handled] at calm ⊢
      have free : solo.calmed.Free message.conversation := ⟨sound, found⟩
      cases startTriggered_starts around settings ⟨sound, found⟩ ahead with
      | fares fares =>
          refine .of_fares fares start ?_
          rw [calm]
          exact (startTriggered_settles _ _ free rfl).noneRunning
      | opened failed clear made stands running own new plain =>
          exact .opened failed clear made stands running own new (by rw [calm]; exact plain)
  | some session =>
      rw [found] at calm
      have handled : handle settings message (some session) =
        handleOnSession settings message session := rfl
      rw [handled] at calm ⊢
      obtain ⟨ready, here⟩ := @ready_of_active solo.calmed _ _ sound rfl found
      cases handleOnSession_handling around settings message session with
      | ignored ran =>
          rw [ran]
          exact .unmet ahead
      | mixed ran =>
          rw [ran]
          exact .unmet ahead
      | stale ran =>
          rw [ran] at calm ⊢
          exact replaceStale_meets ready here ahead untold start calm
      | waiting ran =>
          rw [ran] at calm ⊢
          obtain ⟨report, later, done, _, none_⟩ : Comes around
              (Run.run settings session message.text true none) solo.calmed _ :=
            Run.run_comes ready
          refine .of_fares (Run.run_fares ahead) start ?_
          rw [calm, done, ← here]
          exact none_

/-! ### Messages -/

theorem inbound_once {message : InboundMessage}
    (other : ∀ fault, (around.carryOut (attempt settings message) solo).1 = .error fault →
      fault.isConflict = false) :
    around.carryOut (inbound settings message) solo =
      around.carryOut (attempt settings message) solo := by
  rw [inbound_attempts]
  exact withRetry_once rfl other

theorem inbound_again {message : InboundMessage} {fault : Fault} {middle : Solo}
    (first : around.carryOut (attempt settings message) solo = (.error fault, middle))
    (conflict : fault.isConflict = true) :
    around.carryOut (inbound settings message) solo =
      (settled (around.carryOut (attempt settings message) middle).1,
        (around.carryOut (attempt settings message) middle).2) := by
  rw [inbound_attempts]
  exact withRetry_twice first conflict rfl

/-- A message that has met nobody in its first attempt meets nobody. -/
theorem inbound_unmet {message : InboundMessage}
    (ahead : (around.carryOut (attempt settings message) solo).2.clash.isSome = true)
    (other : ∀ fault, (around.carryOut (attempt settings message) solo.calmed).1 = .error fault →
      fault.isConflict = false) :
    (around.carryOut (inbound settings message) solo).2.clash.isSome = true := by
  rw [carryOut_calmed ahead] at other
  rw [inbound_once other]
  exact ahead

/-- A message is ignored while the active session is being run. -/
theorem attempt_ignored {message : InboundMessage} {row : Session}
    (stands : solo.store.activeSession message.conversation = some row)
    (own : row.organization = message.organization) (running : row.status = .running)
    (new : row.updatedAt = around.time) :
    around.carryOut (attempt settings message) solo =
      (.ok (EventReport.ofSession .ignored row none), { solo with asked := [] }) := by
  rw [attempt_carriedOut, stands]
  refine (handleOnSession_running own running _).trans ?_
  rw [new, Stamp.since?_self]
  rfl

end Event

/-- A session was created before the write that met another writer. -/
def Solo.Created (solo : Solo) : Prop := ∃ given, .createSession given ∈ solo.before

namespace Workplace

variable {ι : Type} {place : Workplace ι}

/-- What has become of a message of which one write of a session has met another writer. It comes to
the report of an undisturbed message, and leaves no session running, unless it had created a session
before: then it is ignored, and leaves that session running. -/
theorem conflict_transparent_unless_created (reached : Reached place) (around : Surroundings)
    (settings : EngineSettings) (message : InboundMessage) (count : Nat)
    {plain disturbed : Except Fault EventReport × Solo}
    (undisturbed : around.carryOut (Event.inbound settings message) (place.scene.store.alone none) =
      plain)
    (once : around.carryOut (Event.inbound settings message)
      (place.scene.store.alone (some count)) = disturbed)
    (met : disturbed.2.clash = none) :
    (¬disturbed.2.Created → disturbed.1 = plain.1 ∧
      disturbed.2.store.NoneRunning message.conversation) ∧
    (disturbed.2.Created → disturbed.1 ≠ plain.1 ∧
      ∃ row, disturbed.2.store.activeSession message.conversation = some row ∧
        row.status = .running ∧
        disturbed.1 = .ok (EventReport.ofSession .ignored row none)) := by
  have sound := reached.informed.shape
  let start := place.scene.store.alone (some count)
  have meets : Event.Meets around settings message start
      (around.carryOut (Event.attempt settings message) start) :=
    Event.attempt_meets sound rfl rfl rfl
  have other (fault : Fault)
      (failed : (around.carryOut (Event.attempt settings message) start.calmed).1 = .error fault) :
      fault.isConflict = false := Event.attempt_other sound rfl failed
  have calm : around.carryOut (Event.attempt settings message) start.calmed = plain :=
    (Event.inbound_once other).symm.trans undisturbed
  have unmet (ahead : (around.carryOut (Event.attempt settings message) start).2.clash.isSome =
      true) : disturbed.2.clash.isSome = true := by
    rw [← once]
    exact Event.inbound_unmet ahead other
  rw [calm] at other
  generalize first : around.carryOut (Event.attempt settings message) start = ended at meets unmet
  obtain ⟨result, middle⟩ := ended
  cases meets with
  | unmet ahead =>
      have still := unmet ahead
      rw [met] at still
      cases still
  | repeated failed clear unopened same none_ =>
      cases failed
      have ends := (Event.inbound_again first rfl).symm.trans once
      rw [same, calm, Event.settled_of_other other] at ends
      obtain ⟨_, kept⟩ := around.carryOut_clear clear (Event.attempt settings message)
      subst ends
      refine ⟨fun _ => ⟨rfl, none_⟩, fun created => ?_⟩
      obtain ⟨given, member⟩ := created
      dsimp only at kept member
      rw [kept] at member
      exact absurd member (unopened given)
  | @opened given row failed clear made stands running own new plainly =>
      cases failed
      have ends := (Event.inbound_again first rfl).symm.trans once
      rw [Event.attempt_ignored stands own running new] at ends
      subst ends
      refine ⟨fun fresh => absurd ⟨given, made⟩ fresh, fun _ => ⟨?_, row, stands, running, rfl⟩⟩
      obtain ⟨reported, same, status⟩ := plainly
      rw [calm] at same
      rw [same]
      intro equal
      cases equal
      cases status

/-! ### A greeting that meets another writer -/

/-- Time stands still, and the services do what they are asked for and know nothing. -/
def sampleSurroundings : Surroundings where
  time := default
  services _ request := ((emptyPlace Unit).scene.respond request).1
  cause := .activeSession "conv_1"

/-- The contact says the word that starts a flow. -/
def greetingAlone (clash : Option Nat) : Except Fault EventReport × Solo :=
  sampleSurroundings.carryOut (Event.inbound sampleSettings greeting)
    ((stocked greetedFlow).scene.store.alone clash)

theorem greetingAlone_eq (clash : Option Nat) :
    sampleSurroundings.carryOut (Event.inbound sampleSettings greeting)
      ((stocked greetedFlow).scene.store.alone clash) = greetingAlone clash := rfl

def hasStatus (status : EventStatus) : Except Fault EventReport → Bool
  | .ok report => report.status = status
  | .error _ => false

theorem of_hasStatus {status : EventStatus} {result : Except Fault EventReport}
    (known : hasStatus status result = true) :
    ∃ report, result = .ok report ∧ report.status = status := by
  cases result with
  | ok report => exact ⟨report, rfl, of_decide_eq_true known⟩
  | error fault => cases known

theorem greetingAlone_ran {clash : Option Nat} {result : Except Fault EventReport}
    (same : (greetingAlone clash).1 = result) :
    sampleSurroundings.carryOut ((Stimulus.inbound greeting).program sampleSettings)
        ((stocked greetedFlow).scene.store.alone clash) =
      (result, (greetingAlone clash).2) :=
  carryOut_ended (greetingAlone_eq clash) same

theorem greetingAlone_waits :
    ∃ report, (greetingAlone none).1 = .ok report ∧ report.status = .waitingInput :=
  of_hasStatus (by decide +kernel)

/-- Where the session could not be created at first, the contact is asked all the same. -/
theorem conflict_transparent_unless_created_greeting :
    (greetingAlone (some 0)).2.clash = none ∧ ¬(greetingAlone (some 0)).2.Created ∧
      (greetingAlone (some 0)).1 = (greetingAlone none).1 ∧
      (greetingAlone (some 0)).2.store.NoneRunning "conv_1" ∧
      ∃ report, (greetingAlone none).1 = .ok report ∧ report.status = .waitingInput := by
  have met : (greetingAlone (some 0)).2.clash = none := by decide +kernel
  have fresh : ¬(greetingAlone (some 0)).2.Created := by
    have nothing : (greetingAlone (some 0)).2.before.isEmpty = true := by decide +kernel
    rintro ⟨given, member⟩
    rw [List.isEmpty_iff.mp nothing] at member
    cases member
  obtain ⟨clean, _⟩ := conflict_transparent_unless_created (stocked_reached greetedFlow)
    sampleSurroundings sampleSettings greeting 0 (greetingAlone_eq none) (greetingAlone_eq (some 0))
    met
  obtain ⟨same, none_⟩ := clean fresh
  exact ⟨met, fresh, same, none_, greetingAlone_waits⟩

/-- The calls that have failed. -/
def failures (calls : List (Answered Call.Answer)) : List (Answered Call.Answer) :=
  calls.filter fun entry => match entry.reply with
    | .ok _ => false
    | .error _ => true

/-- Whether some calls are one write over a session that has met another writer. -/
def isLoneClash : List (Answered Call.Answer) → Bool
  | [⟨.store (.updateSession ..), .error fault⟩] => fault.isConflict
  | _ => false

theorem greeting_ignored_after_conflict :
    ∃ after other : Workplace Unit,
      Reached (stocked greetedFlow) ∧
      Begun (stocked greetedFlow) greeted () sampleSettings (.inbound greeting) ∧
      Alone () WritesSession greeted after ∧ isLoneClash (failures (after.worker ()).past) = true ∧
      Alone () WritesSession greeted other ∧ failures (other.worker ()).past = [] ∧
      (∃ report, (other.worker ()).Ends (.ok (some report)) ∧ report.status = .waitingInput) ∧
      (∃ report, (after.worker ()).Ends (.ok (some report)) ∧ report.status = .ignored) ∧
      ∃ row, after.scene.store.activeSession "conv_1" = some row ∧ row.status = .running := by
  have begins : Begun (stocked greetedFlow) greeted () sampleSettings
      (Stimulus.inbound greeting).operation := opened_begun _ _
  have time : (stocked greetedFlow).scene.time = sampleSurroundings.time := by decide +kernel
  obtain ⟨waits, same', status'⟩ := greetingAlone_waits
  obtain ⟨ignores, same, status⟩ : ∃ report, (greetingAlone (some 1)).1 = .ok report ∧
      report.status = .ignored := of_hasStatus (by decide +kernel)
  obtain ⟨after, alone, ends, told, store⟩ := exists_lone begins time
    (greetingAlone_ran same)
  obtain ⟨other, alone', ends', told', _⟩ := exists_lone begins time
    (greetingAlone_ran same')
  have running : ((greetingAlone (some 1)).2.store.activeSession "conv_1").any (fun session =>
      session.status = .running) = true := by decide +kernel
  obtain ⟨row, stands, runs⟩ := (Option.any_eq_true _ _).mp running
  refine ⟨after, other, stocked_reached _, begins, alone, ?_, alone', ?_, ⟨waits, ends', status'⟩,
    ⟨ignores, ends, status⟩, row, ?_, of_decide_eq_true runs⟩
  · rw [told]
    decide +kernel
  · rw [told']
    exact List.isEmpty_iff.mp (by decide +kernel)
  · rw [store]
    exact stands

end Workplace

end ChatFlow

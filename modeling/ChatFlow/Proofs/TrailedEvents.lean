import ChatFlow.Proofs.SettledSessions
import ChatFlow.Proofs.Trails
/-
What events leave in the store. Cancelled sessions stand where they stood; started and resumed sessions
are carried on by their runs, each from where the event found it. The management of flows moves no
session.
-/

set_option autoImplicit false

namespace ChatFlow

open Program EnginePast

namespace Store

/-! ### Sessions that end where they stand -/

variable {along : LogEntry → Prop} {store middle later : Store}

/-- No session has moved. Those that go on stand as they stood, and none has been lost. -/
structure Quiets (store later : Store) : Prop where
  log : store.Extends (fun _ => False) later
  homes : ∀ {id row}, later.getSession id = some row →
    ∃ old, store.getSession id = some old ∧ old.flow = row.flow
  active : ∀ {id row}, later.getSession id = some row → row.isActive = true →
    store.getSession id = some row
  lost : ∀ {id row}, later.getSession id = some row → row.IsLost → store.getSession id = some row

namespace Quiets

theorem of_sameSessions {added : List LogEntry}
    (same : ∀ id, later.getSession id = store.getSession id)
    (logs : later.logs = store.logs ++ added) (still : movesOf added = []) : store.Quiets later where
  log := .of_still logs still (fun id => nodeOf_of_same (same id)) fun id _ home =>
    (flowOf_of_same (same id)).trans home
  homes {id row} stands := ⟨row, (same id).symm.trans stands, rfl⟩
  active {id _} stands _ := (same id).symm.trans stands
  lost {id _} stands _ := (same id).symm.trans stands

theorem refl (store : Store) : store.Quiets store :=
  of_sameSessions (fun _ => rfl) (List.append_nil _).symm rfl

theorem trans (lower : store.Quiets middle) (upper : middle.Quiets later) : store.Quiets later where
  log := lower.log.trans upper.log
  homes stands := by
    obtain ⟨between, stood, alike⟩ := upper.homes stands
    obtain ⟨old, first, alike'⟩ := lower.homes stood
    exact ⟨old, first, alike'.trans alike⟩
  active stands active := lower.active (upper.active stands active) active
  lost stands gone := lower.lost (upper.lost stands gone) gone

/-- A call that writes neither a session nor the log. -/
theorem of_answer {request : StoreCall} (spares : (Call.store request).writesSession = false)
    (reads : request.writesLogs = false) (stamp : Stamp) (store : Store) :
    store.Quiets (store.answer stamp request).2 :=
  of_sameSessions (answer_getSession spares stamp)
    ((answer_logs reads stamp store).trans (List.append_nil _).symm) rfl

theorem advances (quiets : store.Quiets later) (flows : store.SameFlows later) :
    store.Advances along later where
  flows := flows
  log := quiets.log.mono fun _ impossible => impossible.elim
  homes stands := Or.inl (quiets.homes stands)
  inside _ _ _ stands active := Or.inr (quiets.active stands active)
  lost _ _ _ stands gone := Or.inl (quiets.lost stands gone)

end Quiets

/-- Sessions are in order, and none of them has moved. -/
structure Rests (base store : Store) : Prop where
  orderly : store.Orderly fun _ => True
  quiets : base.Quiets store

/-! ### Sessions that go on -/

theorem Joins.of_sameFlows {row : LogEntry} (joins : middle.Joins row)
    (same : store.SameFlows middle) : store.Joins row := by
  obtain ⟨flow, stored, joined⟩ := joins
  exact ⟨flow, (same.getFlow row.flow).symm.trans stored, joined⟩

theorem Advances.follow (lower : store.Advances store.Joins middle)
    (upper : middle.Advances middle.Joins later) : store.Advances store.Joins later :=
  lower.trans (upper.mono fun _ joins => joins.of_sameFlows lower.flows)

/-- A session that has been created stands at the start of its flow. -/
theorem Advances.of_opened (sound : store.WellFormed) {home : Home} {stored : Session}
    (opened : store.Opened home stored later) {flow : Flow}
    (found : store.getFlow home.flow = some flow) : store.Advances along later := by
  obtain ⟨session, made, stamp, answered⟩ := opened.made
  have after : (store.answer stamp (.createSession session)).2 = later := congrArg Prod.snd answered
  have flows : store.SameFlows later := after ▸ answer_sameFlows rfl stamp store
  have logs : later.logs = store.logs := after ▸ answer_logs rfl stamp store
  have along : stored.flow = home.flow := congrArg Home.flow opened.placed
  have sets : Sets store.nextSession stored store later := ⟨opened.ready.stands, fun id apart => by
    rw [made.rows, if_neg (Ne.symm apart)]⟩
  have unstored := sound.nextSession_free
  refine ⟨flows, .of_still (logs.trans (List.append_nil _).symm) rfl (sets.nodeOf ?_)
      fun _ _ => sets.flowOf fun _ known => ?_, fun {id row} stands => ?_,
    fun closed {id row} stands _ => ?_, fun _ {id row} stands lost => ?_⟩
  · unfold nodeOf
    rw [unstored]
    exact opened.starts
  · unfold flowOf at known
    rw [unstored] at known
    cases known
  · rcases sets.found stands with ⟨rfl, rfl⟩ | stood
    · exact Or.inr (by rw [along, found]; rfl)
    · exact Or.inl ⟨row, stood, rfl⟩
  · rcases sets.found stands with ⟨rfl, rfl⟩ | stood
    · exact Or.inl ⟨flow, along ▸ found, opened.starts ▸ (closed found).start⟩
    · exact Or.inr stood
  · rcases sets.found stands with ⟨rfl, rfl⟩ | stood
    · exact absurd (opened.runs.symm.trans lost.1) (by decide)
    · exact Or.inl stood

/-- A flow stands in the store under its identifier. -/
def Lists (store : Store) (flow : Flow) : Prop :=
  ∃ id, flow.id = some id ∧ store.getFlow id = some flow

/-- All flows stand under their identifiers. -/
def Catalogued (store : Store) : Prop :=
  ∀ {id flow}, (id, flow) ∈ store.flows → store.Lists flow

theorem catalogued_of_owned (enrolled : store.Enrolled) {register : Register}
    (owned : store.Owned register) : store.Catalogued := fun member =>
  ⟨_, (owned.flows member).1, Table.lookup?_of_mem enrolled.distinct member⟩

/-- Sessions are in order, and have been carried on over flows that are as they were. -/
structure Continues (base store : Store) : Prop where
  orderly : store.Orderly fun _ => True
  advances : base.Advances base.Joins store

theorem Continues.follow {base : Store} (continues : base.Continues store)
    (orderly : later.Orderly fun _ => True) (advances : store.Advances store.Joins later) :
    base.Continues later :=
  ⟨orderly, continues.advances.follow advances⟩

end Store

section

variable {store base : Store} {id : String} {session : Session} {settings : EngineSettings}

namespace Event

/-- A session that is ended outside of runs stands where it stood. -/
theorem endSession_quiets (ready : store.Runnable id session) {status : SessionStatus}
    (final : status = .completed ∨ status = .cancelled) (reason : String) :
    Ensures (succeeds fun _ later => store.Quiets later) (endSession session status reason)
      store := by
  have ending : status = .completed ∨ status = .failed ∨ status = .cancelled :=
    final.imp_right Or.inr
  unfold endSession
  refine Ensures.now fun now => ?_
  have wrote := @update_ensures store id session ready (Run.ended session status reason now) rfl rfl
    session.revision rfl
  have kept : Ensures (fun _ later => later.logs = store.logs)
      (Engine.store (.updateSession (Run.ended session status reason now) session.revision)) store :=
    @Ensures.asks store (.updateSession _ _) _ fun stamp => Store.answer_logs rfl stamp store
  refine (wrote.both kept).bind (fun stored middle known => ?_) fun _ _ known => known.1.elim
  obtain ⟨⟨stamp, wrote⟩, logs⟩ := known
  have marked : Ensures (fun _ later => later.logs = middle.logs)
      (Engine.store (.markSessionDelays stored.id)) middle :=
    @Ensures.asks middle (.markSessionDelays stored.id) _ fun stamp =>
      Store.answer_logs rfl stamp middle
  have marks := (marks_ensures ready wrote rfl rfl ending).both
    (marked.onward fun _ _ same => Ensures.done same)
  refine marks.bind (fun _ later known => ?_) fun _ _ known => known.1.elim
  obtain ⟨ends, logs'⟩ := known
  refine (Run.flush_adds _ later).andThen fun _ last known => Ensures.done ?_
  obtain ⟨rows, _, added, logs'', alike⟩ := known
  have sets : Store.Sets id stored store last := ⟨(rows.getSession id).trans ends.row,
    fun other apart => (rows.getSession other).trans (ends.rows other apart)⟩
  have fields : stored.flow = session.flow ∧ stored.currentNode = session.currentNode ∧
      stored.isActive = false ∧ stored.status = status := by
    rw [wrote.row]
    exact ⟨rfl, rfl, rfl, rfl⟩
  obtain ⟨along, node, inactive, ended⟩ := fields
  refine ⟨.of_still (by rw [logs'', logs', logs]) ?_ (sets.nodeOf ?_)
      fun _ _ => sets.flowOf fun flow home => ?_, fun {other row} stands => ?_,
    fun {other row} stands active => ?_, fun {other row} stands lost => ?_⟩
  · have unmoved := congrArg movesOf alike
    rw [movesOf_unnamed, List.map_singleton, movesOf_other LogKind.noConfusion] at unmoved
    exact List.map_eq_nil_iff.mp unmoved
  · exact node.trans (Store.nodeOf_stored ready.stands).symm
  · exact along.trans (Option.some.inj ((Store.flowOf_stored ready.stands).symm.trans home))
  · rcases sets.found stands with ⟨rfl, rfl⟩ | stood
    · exact ⟨session, ready.stands, along.symm⟩
    · exact ⟨row, stood, rfl⟩
  · rcases sets.found stands with ⟨rfl, rfl⟩ | stood
    · rw [inactive] at active
      cases active
    · exact stood
  · rcases sets.found stands with ⟨rfl, rfl⟩ | stood
    · have failed := ended.symm.trans lost.1
      rcases final with rfl | rfl <;> cases failed
    · exact stood

theorem withRetry_preserves {holds : Store → Prop} {attempt : Engine EventReport}
    (preserves : Preserves holds attempt) : Preserves holds (withRetry attempt) := by
  have once : Preserves holds (unlessConflict attempt) := by
    refine preserves.outcome.bind fun result => ?_
    cases result with
    | ok report => exact .done _
    | error fault =>
        dsimp only
        split
        · exact .done _
        · exact .fail _
  refine once.bind fun first => ?_
  cases first with
  | some report => exact .done report
  | none =>
      refine once.bind fun second => ?_
      cases second <;> exact .done _

/-! ### Cancellation -/

theorem cancelReport_rests (rests : base.Rests store) (ready : store.Runnable id session)
    (reason : String) :
    Ensures (fun _ later => base.Rests later) (cancelReport session reason) store := by
  have ended := (endSession_ensures ready (Or.inr (Or.inr rfl)) reason).both
    (endSession_quiets ready (Or.inr rfl) reason)
  refine (ended.bind fun stored later known => ?_) fun _ _ known => known.1.elim
  obtain ⟨⟨ends, _⟩, quiets⟩ := known
  exact Ensures.done ⟨rests.orderly.ends ends, rests.quiets.trans quiets⟩

theorem cancel_rests (organization conversation reason : String) :
    Preserves base.Rests (cancel organization conversation reason) := by
  refine withRetry_preserves fun store rests => ?_
  refine (ownSession_ensures rests.orderly organization conversation).bind
    (fun session later known => ?_) fun _ _ known => known.1 ▸ rests
  obtain ⟨rfl, ready⟩ := known
  obtain ⟨id, ready⟩ := ready session rfl
  exact cancelReport_rests rests ready reason

/-- The sessions of a flow are cancelled where they stand. -/
theorem cancelFlowSessions_rests (flow reason : String) :
    Preserves base.Rests (cancelFlowSessions flow reason) := by
  have one (candidate : Session) : Preserves base.Rests (cancelOnFlow flow reason candidate) := by
    refine withRetry_preserves fun store rests => ?_
    have asked : Ensures (succeeds fun (found : Option Session) later => later = store ∧
          store.getSession (candidate.id.getD "None") = found)
        (Engine.store (.getSession (candidate.id.getD "None"))) store :=
      @look_ensures store (.getSession (candidate.id.getD "None")) _ fun stamp => ⟨_, rfl, rfl⟩
    refine asked.andThen fun found later known => ?_
    obtain ⟨rfl, stands⟩ := known
    cases found with
    | none => exact Ensures.done rests
    | some session =>
        dsimp only
        split
        · next on =>
            rw [Bool.and_eq_true] at on
            exact cancelReport_rests rests (rests.orderly.runnable stands on.1) reason
        · exact Ensures.done rests
  have each (candidates : List Session) : Preserves base.Rests (cancelEach flow reason candidates) := by
    induction candidates with
    | nil => exact .done 0
    | cons candidate rest ih =>
        unfold cancelEach
        refine (one candidate).bind fun report => ih.bind fun others => ?_
        split <;> exact .done _
  exact (Preserves.read fun _ _ => rfl).bind each

/-! ### Sessions that are started and carried on -/

theorem runs_continue (continues : base.Continues store) (ready : store.Runnable id session)
    (inboundText : Option String) :
    Ensures (fun _ later => base.Continues later) (Run.run settings session inboundText true none)
      store := by
  have advances := @Run.run_advances settings store id session ready inboundText true none
    fun _ same => nomatch same
  refine ((runs_ensures continues.orderly ready inboundText).both advances).weaken
    fun _ _ known => ?_
  exact continues.follow (known.1.orderly continues.orderly) known.2

theorem endSession_continues (continues : base.Continues store) (ready : store.Runnable id session)
    {status : SessionStatus} (final : status = .completed ∨ status = .cancelled) (reason : String) :
    Ensures (succeeds fun stored later => base.Continues later ∧
        store.Ends id session.home later stored) (endSession session status reason) store := by
  have ended := (endSession_ensures ready (final.imp_right Or.inr) reason).both
    ((endSession_quiets ready final reason).both
      (Ensures.sameFlows (endSession_sparesFlows session status reason [])))
  refine ended.weaken ?_
  rintro (fault | stored) later ⟨known, quiets, flows⟩
  · exact known.elim
  · obtain ⟨ends, _⟩ := known
    exact ⟨continues.follow (continues.orderly.ends ends) (quiets.advances flows), ends⟩

theorem startSession_continues (continues : base.Continues store) {flow : Flow} {start : Opening}
    (lists : base.Lists flow) (free : Table.lookup? start.conversation store.active = none) :
    Ensures (fun _ later => base.Continues later) (startSession settings flow start) store := by
  obtain ⟨flowId, named, listed⟩ := lists
  have stored := (continues.advances.flows.getFlow flowId).trans listed
  have sound := continues.orderly.sound
  have settled := @startSession_ensures (fun _ => True) store settings continues.orderly flow start
    ⟨flowId, named, trivial⟩ free
  have advances : Ensures (fun _ later => store.Advances store.Joins later)
      (startSession settings flow start) store := by
    refine startSession_opens sound named free fun fresh middle opened => ?_
    have along : fresh.flow = flowId := congrArg Home.flow opened.placed
    have opens : store.Advances store.Joins middle := .of_opened sound opened stored
    refine (Run.run_advances opened.ready start.inboundText false fun other same => ?_).weaken
      fun _ _ upper => opens.follow upper
    cases same
    rw [along, opens.flows.getFlow]
    exact stored
  refine (settled.both advances).weaken ?_
  rintro (fault | report) later ⟨known, advances⟩
  · exact known.elim
  · obtain ⟨_, _, _, _, settles⟩ := known
    exact continues.follow (continues.orderly.settles settles trivial) advances

theorem startTriggered_continues (catalogued : base.Catalogued)
    (continues : base.Continues store) (message : InboundMessage)
    (free : Table.lookup? message.conversation store.active = none) :
    Ensures (fun _ later => base.Continues later) (startTriggered settings message) store := by
  unfold startTriggered
  have triggered := @flowFor_finds store message.organization message.connection message.text
  refine triggered.bind (fun found later known => ?_) fun _ _ known => known.1 ▸ continues
  obtain ⟨rfl, finds⟩ := known
  cases found with
  | none => exact Ensures.done continues
  | some flow =>
      obtain ⟨_, id, stored⟩ := finds flow rfl
      exact startSession_continues continues (catalogued (continues.advances.flows.flows ▸ stored))
        free

theorem inbound_continues (catalogued : base.Catalogued) (message : InboundMessage) :
    Preserves base.Continues (inbound settings message) := by
  refine withRetry_preserves fun store continues => ?_
  refine (activeSession_ensures continues.orderly message.conversation).andThen
    fun found later known => ?_
  obtain ⟨rfl, known⟩ := known
  cases found with
  | none => exact startTriggered_continues catalogued continues message known
  | some session =>
      obtain ⟨_, id, ready⟩ := known
      exact handleOnSession_ensures continues.orderly ready continues
        (runs_continue continues ready message.text)

theorem start_continues (catalogued : base.Catalogued) (organization : String)
    (request : StartRequest) (startedBy : Option String) :
    Preserves base.Continues (start settings organization request startedBy) := by
  intro store continues
  unfold start
  have asked : Ensures (succeeds fun (found : Option Flow) later => later = store ∧
        ∀ flow, found = some flow → base.Lists flow)
      (Engine.store (.getOwnedFlow organization request.flow)) store := by
    refine @look_ensures store (.getOwnedFlow organization request.flow) _ fun stamp =>
      ⟨_, rfl, fun flow found => ?_⟩
    have stored := (Option.filter_eq_some_iff.mp found).1
    exact catalogued (continues.advances.flows.flows ▸ Table.mem_of_lookup? stored)
  refine asked.andThen fun found later known => ?_
  obtain ⟨rfl, lists⟩ := known
  cases found with
  | none => exact Ensures.fail continues
  | some flow =>
      dsimp only
      split
      · exact Ensures.fail continues
      · refine withRetry_preserves (fun middle continues => ?_) later continues
        refine (activeSession_ensures continues.orderly request.conversation).andThen
          fun existing store known => ?_
        obtain ⟨rfl, known⟩ := known
        cases existing with
        | none => exact startSession_continues continues (lists flow rfl) known
        | some existing =>
            obtain ⟨here, id, ready⟩ := known
            refine (endSession_continues continues ready (Or.inr rfl) "replaced").discard.andThen
              fun _ last known => ?_
            obtain ⟨stored, onward, ends⟩ := known
            have free := continues.orderly.free_of_ends ready ends
            rw [here] at free
            exact startSession_continues onward (lists flow rfl) free

theorem resume_continues (conversation session node : String) :
    Preserves base.Continues (resume settings conversation session node) := by
  obtain ⟨attempt, same, attempts⟩ := @resume_attempts settings conversation session node
  rw [same]
  exact withRetry_preserves fun store continues => attempts continues.orderly
    (fun _ _ => continues) continues fun _ _ ready => runs_continue continues ready none

end Event

theorem Timer.poll_continues : Preserves base.Continues (Timer.poll settings) := by
  refine poll_of_resumes Event.resume_continues fun job => ?_
  exact @Preserves.ask _ (.markDelay job) fun store stamp continues =>
    continues.follow (continues.orderly.of_answer rfl stamp)
      ((Store.Quiets.of_answer rfl rfl stamp store).advances
        (Store.answer_sameFlows rfl stamp store))

/-! ### All events -/

/-- A call that writes no session and no timer job, and leaves the log. -/
theorem rests_preserves {request : StoreCall} (calm : request.isCalm = true)
    (spares : (Call.store request).writesSession = false) (reads : request.writesLogs = false) :
    Preserves base.Rests (Engine.store request) :=
  .ask fun _ stamp rests => ⟨rests.orderly.of_answer calm stamp,
    rests.quiets.trans (.of_answer spares reads stamp _)⟩

namespace Occurrence

theorem continues (occurrence : Occurrence) (catalogued : store.Catalogued)
    (orderly : store.Orderly fun _ => True) :
    Ensures (fun _ later => store.Continues later) (occurrence.operation.program settings)
      store := by
  have reports {program : Engine EventReport}
      (continues : Ensures (fun _ later => store.Continues later) program store) :
      Ensures (fun _ later => store.Continues later) (Operation.reporting program) store :=
    continues.onward fun _ _ known => Ensures.done known
  have start : store.Continues store := ⟨orderly, .refl store⟩
  rw [occurrence.operation_program]
  cases occurrence with
  | run stimulus =>
      cases stimulus with
      | inbound message => exact reports (Event.inbound_continues catalogued message store start)
      | start organization request startedBy =>
          exact reports (Event.start_continues catalogued organization request startedBy store start)
      | resume conversation session node =>
          exact reports (Event.resume_continues conversation session node store start)
  | cancel organization conversation reason =>
      have rests := Event.cancel_rests organization conversation reason store
        ⟨orderly, .refl store⟩
      have spares := Event.cancel_sparesFlows organization conversation reason []
      exact reports ((rests.both (Ensures.sameFlows spares)).weaken fun _ _ known =>
        ⟨known.1.orderly, known.1.quiets.advances known.2⟩)

end Occurrence

/-- An event carries sessions on over flows that it leaves as they are, or moves no session. -/
theorem Operation.program_carries (operation : Operation) (catalogued : store.Catalogued)
    (orderly : store.Orderly fun _ => True) :
    Ensures (fun _ later => store.Advances store.Joins later ∨ store.Quiets later)
      (operation.program settings) store := by
  have moves (occurrence : Occurrence) :
      Ensures (fun _ later => store.Advances store.Joins later ∨ store.Quiets later)
        (occurrence.operation.program settings) store :=
    (occurrence.continues catalogued orderly).weaken fun _ _ known => Or.inl known.advances
  have rests {α : Type} {program : Engine α} (preserves : Preserves store.Rests program) :
      Ensures (fun _ later => store.Advances store.Joins later ∨ store.Quiets later)
        (Operation.silent program) store :=
    (silent_preserves preserves store ⟨orderly, .refl store⟩).weaken fun _ _ known =>
      Or.inr known.quiets
  cases operation with
  | inbound message => exact moves (.run (.inbound message))
  | start organization request startedBy => exact moves (.run (.start organization request startedBy))
  | resume conversation session node => exact moves (.run (.resume conversation session node))
  | cancel organization conversation reason => exact moves (.cancel organization conversation reason)
  | poll =>
      exact (silent_preserves Timer.poll_continues store ⟨orderly, .refl store⟩).weaken
        fun _ _ known => Or.inl known.advances
  | cancelFlow flow reason => exact rests (Event.cancelFlowSessions_rests flow reason)
  | install flow => exact rests (rests_preserves rfl rfl rfl)
  | create organization editor request =>
      exact rests (Management.create_preserves fun _ => rests_preserves rfl rfl rfl)
  | update hasEngine organization id request =>
      exact rests (Management.update_preserves Event.cancelFlowSessions_rests
        (fun _ _ _ _ => rests_preserves rfl rfl rfl) hasEngine organization id request)
  | toggle hasEngine organization id =>
      exact rests (Management.toggle_preserves Event.cancelFlowSessions_rests
        (fun _ _ _ _ => rests_preserves rfl rfl rfl) hasEngine organization id)
  | delete hasEngine organization id =>
      exact rests (Management.delete_preserves Event.cancelFlowSessions_rests
        (fun _ _ => rests_preserves rfl rfl rfl) hasEngine organization id)
  | saveCanvas organization id nodes edges editor =>
      exact rests (Management.saveCanvas_preserves (fun _ => rests_preserves rfl rfl rfl)
        (fun _ _ _ _ _ => rests_preserves rfl rfl rfl) organization id nodes edges editor)
  | duplicate organization id editor =>
      exact rests (Management.duplicate_preserves (fun _ => rests_preserves rfl rfl rfl)
        organization id editor)
  | restore organization id number editor =>
      exact rests (Management.restore_preserves (fun _ => rests_preserves rfl rfl rfl)
        (fun _ _ _ _ _ => rests_preserves rfl rfl rfl) organization id number editor)

end

namespace Workplace

variable {ι : Type} {may : Operation → Prop} {place before after : Workplace ι} {index : ι}
  {settings : EngineSettings} {operation : Operation} {result : Except Fault (Option EventReport)}

theorem Serial.catalogued (serial : Serial may place) : place.scene.store.Catalogued := by
  obtain ⟨register, registered⟩ := serial.reached.registered
  exact Store.catalogued_of_owned serial.reached.enrolled registered.owned

theorem Performs.carries (performs : Performs before after index settings operation result)
    (serial : Serial may before) :
    before.scene.store.Advances before.scene.store.Joins after.scene.store ∨
      before.scene.store.Quiets after.scene.store :=
  performs.ensured (operation.program_carries serial.catalogued serial.orderly)

end Workplace

end ChatFlow

import ChatFlow.Proofs.ActiveSessions
import ChatFlow.Proofs.SessionShapes
/-
An event that has the store to itself finds every session in a shape and leaves it so. It either
carries on a session, of which it reports, or leaves the store as it was.
-/

set_option autoImplicit false

namespace ChatFlow

open Program EnginePast

/-- Whether a call neither writes a session nor saves a timer job. -/
def StoreCall.isCalm : StoreCall → Bool
  | .createSession _ | .updateSession .. | .saveDelay _ => false
  | _ => true

namespace Store

variable {good : Home → Prop} {store middle later : Store} {id : String} {session stored : Session}

/-! ### Stores in order -/

/-- Every session is in a shape, and those that are active have good homes. -/
structure Orderly (good : Home → Prop) (store : Store) : Prop where
  sound : WellFormed store
  shaped : ∀ {id row}, store.getSession id = some row → ∃ shape, row.HasShape store.delays shape
  placed : ∀ {id row}, store.getSession id = some row → row.isActive = true → good row.home

theorem orderly_empty : Store.empty.Orderly good where
  sound := wellFormed_empty
  shaped found := nomatch found
  placed found := nomatch found

namespace Orderly

theorem mono {good' : Home → Prop} (orderly : store.Orderly good)
    (implies : ∀ home, good home → good' home) : store.Orderly good' :=
  ⟨orderly.sound, orderly.shaped, fun stands active => implies _ (orderly.placed stands active)⟩

theorem runnable (orderly : store.Orderly good) (stands : store.getSession id = some session)
    (active : session.isActive = true) : store.Runnable id session := by
  obtain ⟨shape, has⟩ := orderly.shaped stands
  exact ⟨orderly.sound, stands, active, has.unended active⟩

/-- Where all sessions but one stand as they stood, only that one has to be looked at. -/
theorem allBut (orderly : store.Orderly good) (others : store.AllBut id later)
    (sound : WellFormed later)
    (own : ∀ row, later.getSession id = some row →
      (∃ shape, row.HasShape later.delays shape) ∧ (row.isActive = true → good row.home)) :
    later.Orderly good where
  sound := sound
  shaped {other row} found := by
    by_cases same : other = id
    · exact (own row (same ▸ found)).1
    · have stood := (others.rows other same).symm.trans found
      obtain ⟨shape, has⟩ := orderly.shaped stood
      refine ⟨shape, has.of_jobs fun name job present mine open_ => ?_⟩
      refine others.jobs name job present open_ fun theirs => same ?_
      have named := orderly.sound.sessionNamed stood
      rw [theirs, named] at mine
      exact (Option.some.inj mine).symm
  placed {other row} found active := by
    by_cases same : other = id
    · exact (own row (same ▸ found)).2 active
    · exact orderly.placed ((others.rows other same).symm.trans found) active

theorem settles (orderly : store.Orderly good) {home : Home} {report : EventReport}
    (settles : Settles id home store later report) (fits : good home) : later.Orderly good := by
  refine orderly.allBut settles.toAllBut settles.sound fun row found => ?_
  obtain ⟨settled, stands, _, same, _, shaped⟩ := settles.row
  cases stands.symm.trans found
  exact ⟨shaped, fun _ => same ▸ fits⟩

theorem ends (orderly : store.Orderly good) {home : Home} (ends : Ends id home store later stored) :
    later.Orderly good := by
  refine orderly.allBut ends.toAllBut ends.sound fun row found => ?_
  cases ends.row.symm.trans found
  exact ⟨⟨.ended, ends.shape⟩, fun active => absurd (active.symm.trans ends.shape.1) (by decide)⟩

/-- Calls that neither write a session nor save a timer job leave the sessions in order. -/
theorem of_answer (orderly : store.Orderly good) {request : StoreCall}
    (calm : request.isCalm = true) (stamp : Stamp) :
    (store.answer stamp request).2.Orderly good := by
  have quiet : (Call.store request).writesSession = false := by
    cases request <;> first | rfl | cases calm
  refine ⟨?_, fun {other row} found => ?_, fun {other row} found active => ?_⟩
  · refine orderly.sound.answer ?_ stamp
    cases request with
    | updateSession => cases calm
    | _ => trivial
  · have stood := (answer_getSession quiet stamp other).symm.trans found
    obtain ⟨shape, has⟩ := orderly.shaped stood
    refine ⟨shape, has.of_jobs fun name job present mine open_ => ?_⟩
    rcases job_of_answer request stamp present with ⟨old, was, same, unmarked⟩ | ⟨given, saves, _⟩
    · exact ⟨old, was, same.session, unmarked open_⟩
    · rw [saves] at calm
      cases calm
  · exact orderly.placed ((answer_getSession quiet stamp other).symm.trans found) active

/-- A session that has ended has left its conversation free. -/
theorem free_of_ends (orderly : store.Orderly good) (ready : store.Runnable id session)
    {home : Home} (ends : Ends id home store later stored) :
    Table.lookup? session.conversation later.active = none := by
  cases owner : Table.lookup? session.conversation later.active with
  | none => rfl
  | some other =>
      obtain ⟨row, found, active, here⟩ := ends.sound.indexed owner
      by_cases same : other = id
      · subst same
        cases ends.row.symm.trans found
        exact absurd (active.symm.trans ends.shape.1) (by decide)
      · have listed := orderly.sound.listed ((ends.rows other same).symm.trans found) active
        rw [here, orderly.sound.listed ready.stands ready.active] at listed
        exact absurd (Option.some.inj listed).symm same

end Orderly

/-- The flows that may be started: each stands under its identifier, and starting it gives a session
a good home. -/
structure Offers (good : Home → Prop) (store : Store) : Prop where
  named : ∀ {id flow}, (id, flow) ∈ store.flows → flow.id = some id
  placed : ∀ {id flow}, (id, flow) ∈ store.flows → flow.isActive = true →
    ∀ conversation, good ⟨flow.organization, conversation, id⟩

/-- A flow may be started on a conversation. -/
def Fits (good : Home → Prop) (flow : Flow) (conversation : String) : Prop :=
  ∃ id, flow.id = some id ∧ good ⟨flow.organization, conversation, id⟩

theorem Offers.fits (offers : store.Offers good) {flow : Flow} (member : (id, flow) ∈ store.flows)
    (active : flow.isActive = true) (conversation : String) : Fits good flow conversation :=
  ⟨id, offers.named member, offers.placed member active conversation⟩

/-- A session has been created, to run from the start. -/
structure Opened (store : Store) (home : Home) (stored : Session) (later : Store) : Prop where
  made : ∃ session, Created store session stored later ∧
    ∃ stamp, store.answer stamp (.createSession session) = (.ok stored, later)
  ready : later.Runnable store.nextSession stored
  placed : stored.home = home
  starts : stored.currentNode = Node.startId
  runs : stored.status = .running

theorem createSession_succeeds {store : Store} {session : Session}
    (free : Table.lookup? session.conversation store.active = none) :
    ∃ stored later, store.createSession session = .ok (stored, later) := by
  unfold createSession
  rw [if_neg (by simp [Table.has, free])]
  exact ⟨_, _, rfl⟩

end Store

/-! ### Events -/

/-- A report tells of the one session that an event has written. A manual start may have ended one
more, which it replaced. -/
def EventReport.Accounts (report : EventReport) (store later : Store) : Prop :=
  ∃ id row, later.getSession id = some row ∧ store.getSession id ≠ some row ∧ report.Reports row ∧
    ∀ other, other ≠ id → later.getSession other = store.getSession other ∨
      ∃ replaced, later.getSession other = some replaced ∧ replaced.isActive = false ∧
        replaced.endReason = some "replaced"

/-- A report says that no session was run or ended. -/
def EventReport.IsQuiet (report : EventReport) : Prop :=
  report.status = .ignored ∨ report.status = .noTrigger ∨ report.status = .conflict

/-- An event has carried on a session, of which it reports, or has left the store as it was. -/
def Carries (good : Home → Prop) (store : Store) : Except Fault EventReport → Store → Prop
  | .ok report, later => later.Orderly good ∧ report.Accounts store later ∨
      later = store ∧ report.IsQuiet
  | .error _, later => later = store

section

variable {good : Home → Prop} {store : Store} {id : String} {session : Session}
  {settings : EngineSettings}

theorem carries_of_settles (orderly : store.Orderly good) {home : Home} (fits : good home)
    {report : EventReport} {later : Store} (settles : store.Settles id home later report) :
    Carries good store (.ok report) later := by
  obtain ⟨row, stands, written, _, reports, _⟩ := settles.row
  exact Or.inl ⟨orderly.settles settles fits, id, row, stands, written, reports,
    fun other apart => Or.inl (settles.rows other apart)⟩

theorem Carries.orderly {result : Except Fault EventReport} {later : Store}
    (carries : Carries good store result later) (orderly : store.Orderly good) :
    later.Orderly good := by
  cases result with
  | error fault => exact carries ▸ orderly
  | ok report =>
      rcases carries with ⟨order, _⟩ | ⟨same, _⟩
      · exact order
      · exact same ▸ orderly

theorem runs_ensures (orderly : store.Orderly good) (ready : store.Runnable id session)
    (inboundText : Option String) :
    Ensures (Carries good store) (Run.run settings session inboundText true none) store := by
  refine (Run.run_ensures ready inboundText true none).weaken ?_
  rintro (fault | report) later settles
  · exact settles.elim
  · exact carries_of_settles orderly (orderly.placed ready.stands ready.active) settles

/-- Looking at the store changes nothing. -/
theorem look_ensures {request : StoreCall} {good : request.Answer → Prop}
    (answers : ∀ stamp, ∃ value, store.answer stamp request = (.ok value, store) ∧ good value) :
    Ensures (succeeds fun value later => later = store ∧ good value) (Engine.store request)
      store := by
  refine Ensures.asks fun stamp => ?_
  obtain ⟨value, same, known⟩ := answers stamp
  rw [same]
  exact ⟨rfl, known⟩

theorem activeSession_ensures (orderly : store.Orderly good) (conversation : String) :
    Ensures (succeeds fun (found : Option Session) later => later = store ∧ match found with
        | some session => session.conversation = conversation ∧
            ∃ id, store.Runnable id session
        | none => Table.lookup? conversation store.active = none)
      (Engine.store (.activeSession conversation)) store := by
  refine @look_ensures store (.activeSession conversation) _ fun stamp => ⟨_, rfl, ?_⟩
  split
  · next session found =>
      obtain ⟨⟨id, stands⟩, active, here⟩ :=
        (orderly.sound.activeSession_iff conversation session).mp found
      exact ⟨here, id, orderly.runnable stands active⟩
  · next absent => exact (orderly.sound.activeSession_eq_none_iff conversation).mp absent

namespace Event

/-- A second attempt finds the store as the first one found it. -/
theorem withRetry_carries {attempt : Engine EventReport}
    (carries : Ensures (Carries good store) attempt store) :
    Ensures (Carries good store) (withRetry attempt) store := by
  have tried : Ensures (fun (result : Except Fault (Option EventReport)) later => match result with
      | .ok (some report) => Carries good store (.ok report) later
      | .ok none | .error _ => later = store) (unlessConflict attempt) store := by
    refine carries.outcome.andThen fun result later known => ?_
    cases result with
    | ok report => exact Ensures.done known
    | error fault =>
        dsimp only
        split
        · exact Ensures.done known
        · exact Ensures.fail known
  unfold withRetry
  refine tried.bind (fun first middle known => ?_) fun _ _ known => known
  cases first with
  | some report => exact Ensures.done known
  | none =>
      cases known
      refine tried.bind (fun second later known => ?_) fun _ _ known => known
      cases second with
      | some report => exact Ensures.done known
      | none =>
          cases known
          exact Ensures.done (Or.inr ⟨rfl, Or.inr (Or.inr rfl)⟩)

theorem endSession_ensures (ready : store.Runnable id session) {status : SessionStatus}
    (final : status = .completed ∨ status = .failed ∨ status = .cancelled) (reason : String) :
    Ensures (succeeds fun stored later => store.Ends id session.home later stored ∧
        stored.status = status ∧ stored.endReason = some reason)
      (endSession session status reason) store := by
  unfold endSession
  refine Ensures.now fun now => ?_
  have wrote := @update_ensures store id session ready (Run.ended session status reason now) rfl rfl
    session.revision rfl
  refine wrote.andThen fun stored middle known => ?_
  obtain ⟨stamp, wrote⟩ := known
  refine (marks_ensures ready wrote rfl rfl final).andThen fun _ later ends => ?_
  refine (flush_ensures _ later).andThen fun _ last same => Ensures.done ⟨ends.sameRows same, ?_⟩
  rw [wrote.row]
  exact ⟨rfl, rfl⟩

/-- The first run of a new session begins when that has been created. -/
theorem startSession_opens (sound : store.WellFormed) {flow : Flow} {start : Opening}
    {flowId : String} {post : Except Fault EventReport → Store → Prop} (named : flow.id = some flowId)
    (free : Table.lookup? start.conversation store.active = none)
    (runs : ∀ stored middle,
      store.Opened ⟨flow.organization, start.conversation, flowId⟩ stored middle →
        Ensures post (Run.run settings stored start.inboundText false (some flow)) middle) :
    Ensures post (startSession settings flow start) store := by
  unfold startSession
  refine Ensures.now fun now => ?_
  have built : Ensures (succeeds fun session later => later = store ∧
      newSession flow start now = .ok session) (Program.ofExcept (newSession flow start now))
      store := by
    apply Ensures.ofExcept
    unfold newSession
    rw [named]
    exact ⟨rfl, rfl⟩
  refine built.andThen fun session later known => ?_
  obtain ⟨rfl, made⟩ := known
  have fields : session.home = ⟨flow.organization, start.conversation, flowId⟩ ∧
      session.currentNode = Node.startId ∧ session.status = .running ∧
      session.isActive = true ∧ session.endReason = none ∧ session.endedAt = none := by
    unfold newSession at made
    rw [named] at made
    cases made
    exact ⟨rfl, rfl, rfl, rfl, rfl, rfl⟩
  obtain ⟨home, node, running, active, unended⟩ := fields
  have created : Ensures (succeeds fun stored middle => Store.Created later session stored middle ∧
      ∃ stamp, later.answer stamp (.createSession session) = (.ok stored, middle))
      (Engine.store (.createSession session)) later := by
    refine @Ensures.asks later (.createSession session) _ fun stamp => ?_
    obtain ⟨stored, middle, done⟩ := Store.createSession_succeeds
      (show Table.lookup? session.conversation later.active = none by
        rw [show session.conversation = start.conversation from congrArg Home.conversation home]
        exact free)
    have answered : later.answer stamp (.createSession session) = (.ok stored, middle) :=
      congrArg (Store.changing later) done
    rw [answered]
    exact ⟨Store.createSession_ok done, stamp, answered⟩
  refine created.andThen fun stored middle known => ?_
  obtain ⟨made, stamp, answered⟩ := known
  have ready : middle.Runnable later.nextSession stored := by
    refine ⟨sound.created made, by rw [made.rows, if_pos rfl], ?_, ?_⟩
    · rw [made.row]
      exact active
    · rw [made.row]
      exact unended
  refine runs stored middle ⟨⟨session, made, stamp, answered⟩, ready, ?_, ?_, ?_⟩
  · rw [made.row]
    exact home
  · rw [made.row]
    exact node
  · rw [made.row]
    exact running

/-- A flow is started on a free conversation: a session is settled under a new name. -/
theorem startSession_ensures (orderly : store.Orderly good) {flow : Flow} {start : Opening}
    (fits : Store.Fits good flow start.conversation)
    (free : Table.lookup? start.conversation store.active = none) :
    Ensures (succeeds fun report later => ∃ id home, store.getSession id = none ∧ good home ∧
        store.Settles id home later report)
      (startSession settings flow start) store := by
  obtain ⟨flowId, named, fits⟩ := fits
  refine startSession_opens orderly.sound named free fun stored middle opened => ?_
  obtain ⟨session, made, _⟩ := opened.made
  refine (Run.run_ensures opened.ready start.inboundText false (some flow)).weaken ?_
  rintro (fault | report) last settles
  · exact settles.elim
  · have unused := orderly.sound.nextSession_free
    refine ⟨_, _, unused, opened.placed ▸ fits, settles.after (.of_created made) fun row old => ?_⟩
    rw [unused] at old
    cases old

/-! ### Messages -/

theorem isActive_of_triggerCandidates {organization : String} {flows : List Flow} {flow : Flow}
    (done : store.triggerCandidates organization = .ok flows) (member : flow ∈ flows) :
    flow.isActive = true := by
  obtain ⟨_, fits⟩ := List.mem_filter.mp (Store.mem_of_sortFlows done member)
  simp only [Bool.and_eq_true] at fits
  exact fits.1.1.2

/-- A flow that a message triggers is an active one that stands in the store. -/
theorem flowFor_finds (organization : String) (connection text : Option String) :
    Ensures (fun result later => later = store ∧ ∀ flow, result = .ok (some flow) →
        flow.isActive = true ∧ ∃ id, (id, flow) ∈ store.flows)
      (Trigger.flowFor organization connection text) store := by
  unfold Trigger.flowFor
  dsimp only
  split
  · exact Ensures.done ⟨rfl, fun _ same => nomatch same⟩
  · have asked : Ensures (fun (result : Except Fault (List Flow)) later => later = store ∧
          store.triggerCandidates organization = result)
        (Engine.store (.triggerCandidates organization)) store :=
      @Ensures.asks store (.triggerCandidates organization) _ fun _ => ⟨rfl, rfl⟩
    refine asked.bind (fun candidates later known => ?_)
      fun _ _ known => ⟨known.1, fun _ same => nomatch same⟩
    obtain ⟨rfl, listed⟩ := known
    refine Ensures.ofExcept ⟨rfl, fun flow chosen => ?_⟩
    have member := first?_mem chosen
    obtain ⟨_, id, stored⟩ := Store.mem_of_triggerCandidates listed member
    exact ⟨isActive_of_triggerCandidates listed member, id, stored⟩

theorem flowFor_ensures (offers : store.Offers good) (organization : String)
    (connection text : Option String) :
    Ensures (fun result later => later = store ∧ ∀ flow, result = .ok (some flow) →
        ∀ conversation, Store.Fits good flow conversation)
      (Trigger.flowFor organization connection text) store := by
  refine (flowFor_finds organization connection text).weaken fun _ _ known => ?_
  refine ⟨known.1, fun flow chosen conversation => ?_⟩
  obtain ⟨active, id, stored⟩ := known.2 flow chosen
  exact offers.fits stored active conversation

theorem startTriggered_carries (orderly : store.Orderly good) (offers : store.Offers good)
    (message : InboundMessage)
    (free : Table.lookup? message.conversation store.active = none) :
    Ensures (Carries good store) (startTriggered settings message) store := by
  unfold startTriggered
  have triggered := flowFor_ensures offers message.organization message.connection message.text
  refine triggered.bind (fun found later known => ?_) fun _ _ known => known.1
  obtain ⟨rfl, fits⟩ := known
  cases found with
  | none => exact Ensures.done (Or.inr ⟨rfl, Or.inr (Or.inl rfl)⟩)
  | some flow =>
      have started := @startSession_ensures good later settings orderly flow
        { conversation := message.conversation
          connection := message.connection
          startedBy := none
          bag := contactVariables message.contactName message.contactPhone
          inboundText := message.text } (fits flow rfl message.conversation) free
      refine started.weaken ?_
      rintro (fault | report) last known
      · exact known.elim
      · obtain ⟨id, home, _, fits, settles⟩ := known
        exact carries_of_settles orderly fits settles

/-- A message on a conversation with an active session is ignored, or is a reply. -/
theorem handleOnSession_ensures (orderly : store.Orderly good) (ready : store.Runnable id session)
    {message : InboundMessage} {post : Except Fault EventReport → Store → Prop}
    (ignored : post (.ok (EventReport.ofSession .ignored session none)) store)
    (runs : Ensures post (Run.run settings session message.text true none) store) :
    Ensures post (handleOnSession settings message session) store := by
  unfold handleOnSession
  dsimp only
  split
  · exact Ensures.done ignored
  · split
    · next running =>
        -- no session is left running
        obtain ⟨shape, has⟩ := orderly.shaped ready.stands
        have shaped := has.shape?
        rw [running] at shaped
        cases shaped
    · exact runs
    · exact Ensures.done ignored

theorem inbound_carries (orderly : store.Orderly good) (offers : store.Offers good)
    (message : InboundMessage) :
    Ensures (Carries good store) (inbound settings message) store := by
  refine withRetry_carries ((activeSession_ensures orderly message.conversation).andThen
    fun found later known => ?_)
  obtain ⟨rfl, known⟩ := known
  cases found with
  | none => exact startTriggered_carries orderly offers message known
  | some session =>
      obtain ⟨_, id, ready⟩ := known
      exact handleOnSession_ensures orderly ready (Or.inr ⟨rfl, Or.inl rfl⟩)
        (runs_ensures orderly ready message.text)

/-! ### Manual starts -/

/-- A session is started under a new name after another one was ended to make room for it. -/
theorem accounts_of_replaced {middle later : Store} {stored : Session} {home home' : Home}
    {name : String} {report : EventReport} (ends : store.Ends id home middle stored)
    (why : stored.endReason = some "replaced") (unused : middle.getSession name = none)
    (settles : middle.Settles name home' later report) : report.Accounts store later := by
  have apart : name ≠ id := by
    intro same
    rw [same, ends.row] at unused
    cases unused
  obtain ⟨row, stands, written, _, reports, _⟩ := settles.row
  refine ⟨name, row, stands, ?_, reports, fun other differs => ?_⟩
  · rw [← ends.rows name apart]
    exact written
  · by_cases same : other = id
    · subst same
      exact Or.inr ⟨stored, (settles.rows other differs).trans ends.row, ends.shape.1, why⟩
    · exact Or.inl ((settles.rows other differs).trans (ends.rows other same))

theorem start_carries (orderly : store.Orderly good) (offers : store.Offers good)
    (organization : String) (request : StartRequest) (startedBy : Option String) :
    Ensures (Carries good store) (start settings organization request startedBy) store := by
  unfold start
  have asked : Ensures (succeeds fun (found : Option Flow) later => later = store ∧
        ∀ flow, found = some flow → (request.flow, flow) ∈ store.flows)
      (Engine.store (.getOwnedFlow organization request.flow)) store := by
    refine @look_ensures store (.getOwnedFlow organization request.flow) _ fun stamp =>
      ⟨_, rfl, fun flow found => ?_⟩
    exact Table.mem_of_lookup? (Option.filter_eq_some_iff.mp found).1
  refine asked.andThen fun found later known => ?_
  obtain ⟨rfl, stored⟩ := known
  cases found with
  | none => exact Ensures.fail rfl
  | some flow =>
      dsimp only
      split
      · exact Ensures.fail rfl
      · next enabled =>
          have active : flow.isActive = true := by simpa using enabled
          have fits := offers.fits (stored flow rfl) active request.conversation
          refine withRetry_carries ((activeSession_ensures orderly request.conversation).andThen
            fun existing middle known => ?_)
          obtain ⟨rfl, known⟩ := known
          cases existing with
          | none =>
              refine (startSession_ensures orderly fits known).weaken ?_
              rintro (fault | report) last known
              · exact known.elim
              · obtain ⟨id, home, _, fits, settles⟩ := known
                exact carries_of_settles orderly fits settles
          | some existing =>
              obtain ⟨here, id, ready⟩ := known
              have ended := endSession_ensures ready (Or.inr (Or.inr rfl)) "replaced"
              refine ended.discard.andThen fun _ last known => ?_
              obtain ⟨stored, ends, _, why⟩ := known
              have order := orderly.ends ends
              have free := orderly.free_of_ends ready ends
              rw [here] at free
              refine (startSession_ensures order fits free).weaken ?_
              rintro (fault | report) final known
              · exact known.elim
              · obtain ⟨name, home, unused, fits, settles⟩ := known
                exact Or.inl ⟨order.settles settles fits, accounts_of_replaced ends why unused settles⟩

/-! ### Timers -/

/-- A timer job that fires is ignored, has mixed up two clocks, or carries its session on; and so is
a second attempt. -/
theorem resume_attempts (conversation waiting node : String) :
    ∃ attempt, resume settings conversation waiting node = withRetry attempt ∧
      ∀ {good : Home → Prop} {store : Store} {post : Except Fault EventReport → Store → Prop},
        store.Orderly good → (∀ report, report.status = .ignored → post (.ok report) store) →
        post (.error .mixedClocks) store →
        (∀ id found, store.Runnable id found →
          Ensures post (Run.run settings found none true none) store) →
        Ensures post attempt store := by
  refine ⟨_, rfl, fun {good store post} orderly ignored mixed runs => ?_⟩
  have asked : Ensures (succeeds fun (found : Option Session) later => later = store ∧
        ∀ row, found = some row → store.getSession waiting = some row)
      (Engine.store (.getSession waiting)) store :=
    @look_ensures store (.getSession waiting) _ fun stamp => ⟨_, rfl, fun row found => found⟩
  refine asked.andThen fun found later known => ?_
  obtain ⟨rfl, stands⟩ := known
  cases found with
  | none => exact Ensures.done (ignored _ rfl)
  | some found =>
      dsimp only
      split
      · exact Ensures.done (ignored _ rfl)
      · split
        · exact Ensures.done (ignored _ rfl)
        · next waits =>
            have active : found.isActive = true := by
              simp only [Bool.or_eq_true, Bool.not_eq_true', not_or, Bool.not_eq_false] at waits
              exact waits.1
            have ready := orderly.runnable (stands found rfl) active
            split
            · exact Ensures.done (ignored _ rfl)
            · split
              · exact runs _ found ready
              · refine Ensures.now fun now => ?_
                split
                · exact Ensures.fail mixed
                · exact Ensures.done (ignored _ rfl)
                · exact runs _ found ready

theorem resume_carries (orderly : store.Orderly good) (conversation session node : String) :
    Ensures (Carries good store) (resume settings conversation session node) store := by
  obtain ⟨attempt, same, attempts⟩ := @resume_attempts settings conversation session node
  rw [same]
  exact withRetry_carries (attempts orderly (fun _ ignored => Or.inr ⟨rfl, Or.inl ignored⟩) rfl
    fun _ _ ready => runs_ensures orderly ready none)

/-! ### Cancellation -/

theorem cancelReport_ensures (orderly : store.Orderly good) (ready : store.Runnable id session)
    (reason : String) :
    Ensures (succeeds fun report later => Carries good store (.ok report) later ∧
        later.Orderly good ∧ ∃ stored, store.Ends id session.home later stored)
      (cancelReport session reason) store := by
  refine (endSession_ensures ready (Or.inr (Or.inr rfl)) reason).andThen fun stored later known => ?_
  obtain ⟨ends, status, why⟩ := known
  have reports : (EventReport.ofSession .cancelled stored (some reason)).Reports stored :=
    ⟨⟨rfl, rfl, rfl, why.symm⟩, by rw [status]; rfl⟩
  have placed := orderly.placed ready.stands ready.active
  exact Ensures.done ⟨carries_of_settles orderly placed (ends.settles reports), orderly.ends ends,
    stored, ends⟩

/-- The session that an organization has on a conversation, to be carried on. -/
theorem ownSession_ensures (orderly : store.Orderly good) (organization conversation : String) :
    Ensures (fun result later => later = store ∧ ∀ session, result = .ok session →
        ∃ id, store.Runnable id session) (activeSession organization conversation) store := by
  unfold activeSession
  refine (activeSession_ensures orderly conversation).andThen fun found later known => ?_
  obtain ⟨rfl, known⟩ := known
  cases found with
  | none => exact Ensures.fail ⟨rfl, fun _ same => nomatch same⟩
  | some session =>
      dsimp only
      split
      · refine Ensures.done ⟨rfl, fun other same => ?_⟩
        cases same
        exact known.2
      · exact Ensures.fail ⟨rfl, fun _ same => nomatch same⟩

theorem cancel_carries (orderly : store.Orderly good) (organization conversation reason : String) :
    Ensures (Carries good store) (cancel organization conversation reason) store := by
  apply withRetry_carries
  refine (ownSession_ensures orderly organization conversation).bind
    (fun session later known => ?_) fun _ _ known => known.1
  obtain ⟨rfl, ready⟩ := known
  obtain ⟨id, ready⟩ := ready session rfl
  refine (cancelReport_ensures orderly ready reason).weaken ?_
  rintro (fault | report) last known
  · exact known.elim
  · exact known.1

theorem withRetry_succeeds {attempt : Engine EventReport} {known : EventReport → Store → Prop}
    (succeeds_ : Ensures (succeeds known) attempt store) :
    Ensures (succeeds known) (withRetry attempt) store := by
  have first : Ensures (succeeds fun (tried : Option EventReport) later =>
      ∃ report, tried = some report ∧ known report later) (unlessConflict attempt) store := by
    refine succeeds_.outcome.andThen fun result later done => ?_
    cases result with
    | ok report => exact Ensures.done ⟨report, rfl, done⟩
    | error fault => exact done.elim
  refine first.andThen fun tried later done => ?_
  obtain ⟨report, rfl, done⟩ := done
  exact Ensures.done done

theorem cancelOnFlow_ensures (orderly : store.Orderly good) (flow reason : String)
    (candidate : Session) :
    Ensures (succeeds fun _ later => later.Orderly good ∧ ∀ name row,
        later.getSession name = some row → row.isActive = true →
          store.getSession name = some row ∧
            (candidate.id.getD "None" = name → row.flow ≠ flow))
      (cancelOnFlow flow reason candidate) store := by
  have asked : Ensures (succeeds fun (found : Option Session) later => later = store ∧
        store.getSession (candidate.id.getD "None") = found)
      (Engine.store (.getSession (candidate.id.getD "None"))) store :=
    @look_ensures store (.getSession (candidate.id.getD "None")) _ fun stamp => ⟨_, rfl, rfl⟩
  refine withRetry_succeeds (asked.andThen fun found later known => ?_)
  obtain ⟨rfl, stands⟩ := known
  cases found with
  | none =>
      refine Ensures.done ⟨orderly, fun name row here _ => ⟨here, fun same => ?_⟩⟩
      rw [← same, stands] at here
      cases here
  | some session =>
      dsimp only
      split
      · next on =>
          rw [Bool.and_eq_true, decide_eq_true_eq] at on
          have ready := orderly.runnable stands on.1
          refine (cancelReport_ensures orderly ready reason).weaken ?_
          rintro (fault | report) last known
          · exact known.elim
          · obtain ⟨_, order, stored, ends⟩ := known
            refine ⟨order, fun name row here active => ?_⟩
            by_cases same : candidate.id.getD "None" = name
            · subst same
              cases ends.row.symm.trans here
              exact absurd (active.symm.trans ends.shape.1) (by decide)
            · exact ⟨(ends.rows name (Ne.symm same)).symm.trans here, fun equal => absurd equal same⟩
      · next off =>
          refine Ensures.done ⟨orderly, fun name row here active => ⟨here, fun same on => off ?_⟩⟩
          subst same
          cases stands.symm.trans here
          rw [Bool.and_eq_true, decide_eq_true_eq]
          exact ⟨active, on⟩

theorem cancelEach_ensures (orderly : store.Orderly good) (flow reason : String)
    (candidates : List Session)
    (listed : ∀ name row, store.getSession name = some row → row.isActive = true →
      row.flow = flow → ∃ candidate ∈ candidates, candidate.id.getD "None" = name) :
    Ensures (succeeds fun _ later => later.Orderly fun home => good home ∧ home.flow ≠ flow)
      (cancelEach flow reason candidates) store := by
  induction candidates generalizing store with
  | nil =>
      refine Ensures.done ⟨orderly.sound, orderly.shaped, fun {name row} here active => ?_⟩
      refine ⟨orderly.placed here active, fun on => ?_⟩
      obtain ⟨_, impossible, _⟩ := listed name row here active on
      cases impossible
  | cons candidate rest ih =>
      unfold cancelEach
      refine (cancelOnFlow_ensures orderly flow reason candidate).andThen
        fun report middle known => ?_
      obtain ⟨order, left⟩ := known
      refine (ih order fun name row here active on => ?_).andThen fun others later known => ?_
      · obtain ⟨stood, off⟩ := left name row here active
        obtain ⟨other, member, same⟩ := listed name row stood active on
        rcases List.mem_cons.mp member with head | tail
        · subst head
          exact absurd on (off same)
        · exact ⟨other, tail, same⟩
      · split <;> exact Ensures.done known

/-- When the sessions of a flow have been cancelled, no active session is on it. -/
theorem cancelFlowSessions_ensures (orderly : store.Orderly good) (flow reason : String) :
    Ensures (succeeds fun _ later => later.Orderly fun home => good home ∧ home.flow ≠ flow)
      (cancelFlowSessions flow reason) store := by
  have asked : Ensures (succeeds fun (candidates : List Session) later => later = store ∧
        ∀ name row, store.getSession name = some row → row.isActive = true → row.flow = flow →
          ∃ candidate ∈ candidates, candidate.id.getD "None" = name)
      (Engine.store (.activeSessionsOf flow)) store := by
    refine @look_ensures store (.activeSessionsOf flow) _ fun stamp =>
      ⟨_, rfl, fun name row here active on => ?_⟩
    have member : row ∈ store.activeSessionsOf flow := by
      refine List.mem_filter.mpr ⟨List.mem_map_of_mem (Table.mem_of_lookup? here), ?_⟩
      rw [Bool.and_eq_true, decide_eq_true_eq]
      exact ⟨on, active⟩
    exact ⟨row, member, by rw [orderly.sound.sessionNamed here]; rfl⟩
  refine asked.andThen fun candidates later known => ?_
  obtain ⟨rfl, listed⟩ := known
  exact cancelEach_ensures orderly flow reason candidates listed

end Event

/-! ### Polling -/

/-- Polling preserves what resuming sessions and marking jobs do. -/
theorem Timer.poll_of_resumes {holds : Store → Prop}
    (resumes : ∀ conversation session node,
      Preserves holds (Event.resume settings conversation session node))
    (marks : ∀ job, Preserves holds (Engine.store (.markDelay job))) :
    Preserves holds (poll settings) := by
  have handled (job : Delay) : Preserves holds (handle settings job) := by
    refine (resumes job.conversation job.session job.node).bind fun report => ?_
    split
    · exact .done false
    · exact (marks _).discard.bind fun _ => .done true
  have each (jobs : List Delay) : Preserves holds (handleEach settings jobs) := by
    induction jobs with
    | nil => exact .done 0
    | cons job rest ih =>
        refine (handled job).outcome.bind fun result => ih.bind fun others => ?_
        split <;> exact .done _
  exact .now fun time => (Preserves.read fun _ _ => rfl).bind each

theorem Timer.poll_preserves : Preserves (Store.Orderly good) (poll settings) := by
  refine poll_of_resumes (fun conversation session node store orderly => ?_) fun job => ?_
  · exact (Event.resume_carries orderly conversation session node).weaken fun _ _ carries =>
      carries.orderly orderly
  · exact @Preserves.ask _ (.markDelay job) fun store stamp orderly => orderly.of_answer rfl stamp

end

end ChatFlow

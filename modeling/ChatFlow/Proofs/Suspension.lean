import ChatFlow.Proofs.Errands
import ChatFlow.Proofs.RunTrace
/-
A session that waits for a timer does not move before it is due. Whatever events begin meanwhile, it
stays as it is or is cancelled, and no node is begun for it. A timer event that is ignored has done
nothing but look.
-/

set_option autoImplicit false

namespace ChatFlow

open Program EnginePast

/-- A row is a session as it was, or the session ended as cancelled. -/
def Session.StaysOrEnds (session row : Session) : Prop :=
  row = session ∨ ∃ reason now stamp,
    row = { Run.ended session .cancelled reason now with
      revision := session.revision + 1
      updatedAt := stamp }

theorem Session.StaysOrEnds.stays {session row : Session} (either : session.StaysOrEnds row)
    (active : row.isActive = true) : row = session := by
  rcases either with same | ⟨reason, now, stamp, ended⟩
  · exact same
  · rw [ended] at active
    cases active

namespace EnginePast

/-- A worker knows a session only as it waits for a timer, and knows no time at which it is due. -/
structure Unready (past : EnginePast) (id : String) (session : Session) (resumeAt : Stamp) :
    Prop where
  made : ∀ {given found}, Told past (.createSession given) found → found.id ≠ some id
  owner : ∀ {conversation found}, Told past (.activeSession conversation) (some found) →
    found.id = some id → found = session
  read : ∀ {name found}, Told past (.getSession name) (some found) → found.id = some id →
    found.isActive = true → found = session
  clocked : ∀ {now}, Clocked past now → now.Before resumeAt

variable {past later : EnginePast} {id : String} {session : Session} {resumeAt : Stamp}

theorem Unready.nothing (id : String) (session : Session) (resumeAt : Stamp) :
    Unready [] id session resumeAt where
  made told := nomatch told
  owner told := nomatch told
  read told := nomatch told
  clocked shown := nomatch shown

theorem Unready.of_fewer (unready : Unready past id session resumeAt) (fewer : Fewer later past) :
    Unready later id session resumeAt where
  made told := unready.made (fewer.told told)
  owner told := unready.owner (fewer.told told)
  read told := unready.read (fewer.told told)
  clocked shown := unready.clocked (fewer.clocked shown)

theorem Unready.not_movable (unready : Unready past id session resumeAt)
    (waiting : session.status = .awaitingTimer) (due : session.resumeAt = some resumeAt)
    {found : Session} (named : found.id = some id) : ¬Movable past found := by
  intro movable
  cases movable with
  | made told => exact unready.made told named
  | answered told answered =>
      rw [unready.owner told named, waiting] at answered
      cases answered
  | due told active _ reached =>
      have same := unready.read told named active
      obtain ⟨now, shown, ready⟩ := reached resumeAt (by rw [same, due])
      exact ready.not_before (unready.clocked shown)

end EnginePast

namespace Workplace

variable {ι : Type}

/-! ### Steps before a time -/

/-- A step before a time, while the workers that were in the midst of an event stand still. -/
structure Passes (place : Workplace ι) (time : Stamp) (before after : Workplace ι) : Prop where
  step : Step before after
  early : after.scene.time.Before time
  still : ∀ index, ¬(place.worker index).IsIdle → after.worker index = before.worker index

/-- A session is parked: it stays or is cancelled, no node is begun for it, and nobody who has begun
an event is ready to run it. -/
structure Parked (place now : Workplace ι) (id : String) (session : Session) (resumeAt : Stamp) :
    Prop where
  reached : Reached now
  row : ∃ row, now.scene.store.getSession id = some row ∧ session.StaysOrEnds row
  log : now.scene.store.nodeStarts id = place.scene.store.nodeStarts id
  unready : ∀ index, (place.worker index).IsIdle →
    (now.worker index).IsIdle ∨ Unready (now.worker index).past id session resumeAt

/-- A row after an answer: it stands as it stood, or it was written. -/
theorem Answering.row_change {before after : Workplace ι} {index : ι} {past : EnginePast}
    {request : Call} {reply : Except Fault request.Answer}
    (answering : Answering before after index past request reply) (informed : Informed before)
    {id : String} {row : Session} (stands : before.scene.store.getSession id = some row) :
    after.scene.store.getSession id = some row ∨ ∃ written expected stored stamp,
      Replaces past before.scene.store id row written expected stamp stored after.scene.store ∧
      after.scene.store.getSession id = some stored := by
  obtain ⟨evolves, _⟩ := answering.evolves informed
  obtain ⟨later, present, _⟩ := evolves.rows stands
  rcases answering.row_after informed present with
    old | ⟨absent, _⟩ | ⟨written, expected, found, stamp, _, replaces⟩
  · have same : later = row := Option.some.inj (old.symm.trans stands)
    rw [same] at present
    exact Or.inl present
  · rw [stands] at absent
    cases absent
  · have same : found = row := Option.some.inj (replaces.current.symm.trans stands)
    subst same
    exact Or.inr ⟨written, expected, later, stamp, replaces, present⟩

section Answered

variable {place before after : Workplace ι} {id : String} {session : Session} {resumeAt : Stamp}
  {index : ι} {past : EnginePast} {request : Call} {reply : Except Fault request.Answer}

theorem Parked.row_answered (parked : Parked place before id session resumeAt)
    (answering : Answering before after index past request reply)
    (waiting : session.status = .awaitingTimer) (due : session.resumeAt = some resumeAt)
    (unready : Unready past id session resumeAt) :
    ∃ row, after.scene.store.getSession id = some row ∧ session.StaysOrEnds row := by
  obtain ⟨row, stands, either⟩ := parked.row
  have informed := parked.reached.informed
  rcases answering.row_change informed stands with still | ⟨written, expected, stored, stamp, replaces, later⟩
  · exact ⟨row, still, either⟩
  · have named : row.id = some id := informed.shape.sessionNamed stands
    have same : row = session := either.stays replaces.active
    subst same
    -- a session that may not be run is only ended, and as cancelled unless it was left running
    rcases replaces.rewrites.reason with movable | ⟨status, reason, now, ended, kind⟩
    · exact absurd movable (unready.not_movable waiting due named)
    · have cancelled : status = .cancelled := by
        rcases kind with cancelled | running
        · exact cancelled
        · rw [waiting] at running
          cases running
      refine ⟨stored, later, Or.inr ⟨reason, now, stamp, ?_⟩⟩
      rw [replaces.updated.row, ended, cancelled, replaces.rewrites.revision]

theorem Parked.log_answered (parked : Parked place before id session resumeAt)
    (answering : Answering before after index past request reply)
    (waiting : session.status = .awaitingTimer) (due : session.resumeAt = some resumeAt)
    (unready : Unready past id session resumeAt) :
    after.scene.store.nodeStarts id = place.scene.store.nodeStarts id := by
  have warranted := answering.warranted
  rcases answering.answers.effect with same | ⟨asked, stamp, rfl, changed⟩
  · rw [same]
    exact parked.log
  · rw [changed]
    refine Eq.trans (Store.nodeStarts_answer ?_ ?_ stamp) parked.log
    · intro rows saves row member kind about
      subst saves
      obtain ⟨found, movable, same⟩ := warranted row member kind
      exact unready.not_movable waiting due (same.symm.trans about) movable
    · intro organization conversation deletes
      subst deletes
      exact warranted

theorem Parked.unready_answered (parked : Parked place before id session resumeAt)
    (answering : Answering before after index past request reply)
    (unready : Unready past id session resumeAt) (early : after.scene.time.Before resumeAt) :
    Unready (⟨request, reply⟩ :: past) id session resumeAt := by
  obtain ⟨row, stands, either⟩ := parked.row
  have shape := parked.reached.informed.shape
  have answers := answering.answers
  constructor
  case made =>
    intro given found told named
    rcases EnginePast.Holds.told_cons told with head | tail
    · cases head
      obtain ⟨stamp, told, _⟩ := answers
      -- a new session gets a name that no row has
      have made := Store.createSession_ok (Store.changing_ok told.symm)
      have next : before.scene.store.nextSession = id := by
        rw [made.row] at named
        exact Option.some.inj named
      rw [← next, shape.nextSession_free] at stands
      cases stands
    · exact unready.made tail named
  case owner =>
    intro conversation found told named
    rcases EnginePast.Holds.told_cons told with head | tail
    · cases head
      obtain ⟨stamp, told, _⟩ := answers
      have indexed : before.scene.store.activeSession conversation = some found :=
        (Except.ok.inj told).symm
      obtain ⟨name, listed, current⟩ := Option.bind_eq_some_iff.mp indexed
      obtain ⟨other, stood, active, _⟩ := shape.indexed listed
      have same : name = id := Option.some.inj ((shape.sessionNamed current).symm.trans named)
      subst same
      have first : other = found := Option.some.inj (stood.symm.trans current)
      have second : found = row := Option.some.inj (current.symm.trans stands)
      rw [second]
      exact either.stays (by rw [← second, ← first]; exact active)
    · exact unready.owner tail named
  case read =>
    intro name found told named active
    rcases EnginePast.Holds.told_cons told with head | tail
    · cases head
      obtain ⟨stamp, told, _⟩ := answers
      have current : before.scene.store.getSession name = some found := (Except.ok.inj told).symm
      have same : name = id := Option.some.inj ((shape.sessionNamed current).symm.trans named)
      subst same
      have second : found = row := Option.some.inj (current.symm.trans stands)
      rw [second]
      exact either.stays (by rw [← second]; exact active)
    · exact unready.read tail named active
  case clocked =>
    intro now shown
    rcases List.mem_cons.mp shown with head | tail
    · cases head
      -- the clock is read after the step, and that is before the time
      obtain ⟨told, same⟩ := answers
      cases told
      rw [same] at early
      exact early
    · exact unready.clocked tail

end Answered

theorem Parked.step {place before after : Workplace ι} {id : String} {session : Session}
    {resumeAt : Stamp} (parked : Parked place before id session resumeAt)
    (waiting : session.status = .awaitingTimer) (due : session.resumeAt = some resumeAt)
    (passes : Passes place resumeAt before after) : Parked place after id session resumeAt := by
  have reached := parked.reached.step passes.step
  have early := passes.early
  have still := passes.still
  cases passes.step with
  | tick => exact ⟨reached, parked.row, parked.log, parked.unready⟩
  | @begin _ index settings operation idle same turn =>
      refine ⟨reached, by rw [same]; exact parked.row, by rw [same]; exact parked.log, ?_⟩
      intro other free
      by_cases own : other = index
      · subst own
        rw [turn.1]
        exact Or.inr (.nothing id session resumeAt)
      · rw [turn.2 other own]
        exact parked.unready other free
  | @refuse _ index past request next fault calls same turn =>
      refine ⟨reached, by rw [same]; exact parked.row, by rw [same]; exact parked.log, ?_⟩
      intro other free
      by_cases own : other = index
      · subst own
        rcases parked.unready other free with idle | unready
        · rw [calls] at idle
          exact idle.elim
        · rw [calls] at unready
          rw [turn.1]
          exact Or.inr (unready.of_fewer (.refused past request fault))
      · rw [turn.2 other own]
        exact parked.unready other free
  | @answer _ index past request next reply calls answers turn =>
      have answering := parked.reached.mannered.answering calls answers turn
      have unready : Unready past id session resumeAt := by
        by_cases free : (place.worker index).IsIdle
        · rcases parked.unready index free with idle | unready
          · rw [calls] at idle
            exact idle.elim
          · rw [calls] at unready
            exact unready
        · -- a worker that stands still has not been told anything
          have told := answering.told
          rw [still index free, calls] at told
          exact absurd (congrArg List.length told) (Nat.ne_of_lt (Nat.lt_succ_self _))
      refine ⟨reached, parked.row_answered answering waiting due unready,
        parked.log_answered answering waiting due unready, ?_⟩
      intro other free
      by_cases own : other = index
      · subst own
        rw [turn.1]
        exact Or.inr (parked.unready_answered answering unready early)
      · rw [turn.2 other own]
        exact parked.unready other free

theorem parked_of_passes {place after : Workplace ι} (reached : Reached place) {id : String}
    {session : Session} {resumeAt : Stamp}
    (stands : place.scene.store.getSession id = some session)
    (waiting : session.status = .awaitingTimer) (due : session.resumeAt = some resumeAt)
    (path : Relation.ReflTransGen (Passes place resumeAt) place after) :
    Parked place after id session resumeAt := by
  induction path with
  | refl => exact ⟨reached, ⟨session, stands, Or.inl rfl⟩, rfl, fun _ idle => Or.inl idle⟩
  | tail _ passes parked => exact parked.step waiting due passes

/-! ### Timer events that are ignored -/

/-- No call of the store is refused. -/
def Nothing (_request : StoreCall) : Prop := False

/-- A worker carries out a timer event alone: no call has failed, a session that was read and not
written since stands as it was read, and nothing has changed while the worker only looked. -/
structure Resuming (start place : Workplace ι) (index : ι) : Prop where
  reached : Reached place
  follows : Follows OfTimer
    (fun later (result : Except Fault (Option EventReport)) => ∀ report,
      result = .ok (some report) → report.status = .ignored → Denied later ∨ Event.Looked [] later)
    (place.worker index).rest (place.worker index).past
  granted : ¬Denied (place.worker index).past
  fresh : ∀ found name, Fresh (place.worker index).past found → found.id = some name →
    place.scene.store.getSession name = some found
  looked : (∀ entry ∈ (place.worker index).past, entry.request.isLook = true) →
    place.scene.store = start.scene.store

theorem Begun.resuming {place begun : Workplace ι} {index : ι} {settings : EngineSettings}
    {conversation session node : String}
    (begins : Begun place begun index settings (.resume conversation session node))
    (reached : Reached place) : Resuming place begun index where
  reached := reached.step begins.step
  follows := by
    rw [begins.turn.1]
    refine (Event.resume_ofTimer conversation session node []).bind
      (fun report later _ known => Follows.done fun other same ignored => ?_)
      fun _ _ _ _ other same => nomatch same
    cases same
    exact known.1 ignored
  granted := by
    rw [begins.turn.1]
    rintro ⟨_, _, member, _⟩
    cases member
  fresh := by
    rw [begins.turn.1]
    rintro found name ⟨_, since, _, parts, _⟩
    cases since <;> cases parts
  looked _ := by rw [begins.same]

namespace Resuming

variable {start before after : Workplace ι} {index : ι} {past : EnginePast} {request : Call}
  {next : Except Fault request.Answer → Engine (Option EventReport)}
  {reply : Except Fault request.Answer} {later : Scene}

/-- The store and the clock answer what a timer event asks. -/
theorem reply_ok (resuming : Resuming start before index)
    (calls : before.worker index = ⟨past, .call request next⟩)
    (answers : before.scene.Answers request reply later) (asked : request.isService = false) :
    ∃ value, reply = .ok value := by
  have follows := resuming.follows
  have fresh := resuming.fresh
  have holds := resuming.reached.informed.holds index
  rw [calls] at follows fresh holds
  have allowed := follows.at_call.1
  have shape := resuming.reached.informed.shape
  cases kind : request.isOfPoll with
  | true => exact resuming.reached.reply_ok calls answers kind
  | false =>
      cases request with
      | clock | complete | http | history | deliver | sleep => cases asked <;> cases kind
      | store request =>
          obtain ⟨stamp, replied, _⟩ := answers
          cases request with
          | getFlow | saveDelay | markSessionDelays | saveLogs => exact ⟨_, replied⟩
          | updateSession session expected =>
              obtain ⟨found, movable, unwritten, same, place, agreed⟩ := allowed
              obtain ⟨name, _, named, active, _⟩ := holds.saw movable.saw
              have stands := fresh found name unwritten named
              obtain ⟨stored, changed, done⟩ := Store.updateSession_succeeds shape
                (same.trans named) stands active place agreed.symm stamp
              have answered : (before.scene.store.answer stamp
                  (.updateSession session expected)).1 = .ok stored := by
                show (Store.changing before.scene.store
                  (before.scene.store.updateSession session expected stamp)).1 = _
                rw [done]
                rfl
              exact ⟨stored, replied.trans answered⟩
          | getSession | pendingDelays | markDelay => cases kind
          | _ => cases allowed

theorem answer (resuming : Resuming start before index)
    (calls : before.worker index = ⟨past, .call request next⟩)
    (answers : before.scene.Answers request reply after.scene)
    (turn : Turn before after index ⟨⟨request, reply⟩ :: past, next reply⟩) :
    Resuming start after index := by
  have replies := resuming.reply_ok calls answers
  have shape := resuming.reached.informed.shape
  have follows := resuming.follows
  have granted := resuming.granted
  have fresh := resuming.fresh
  have looked := resuming.looked
  rw [calls] at follows granted fresh looked
  have past' : (after.worker index).past = ⟨request, reply⟩ :: past := by rw [turn.1]
  constructor
  case reached => exact resuming.reached.step (.answer calls answers turn)
  case follows =>
    rw [turn.1]
    exact follows.at_call.2 reply
  case granted =>
    rw [past']
    rintro ⟨asked, fault, member, kind⟩
    rcases List.mem_cons.mp member with head | tail
    · cases head
      obtain ⟨value, ok⟩ := replies kind
      cases ok
    · exact granted ⟨asked, fault, tail, kind⟩
  case fresh =>
    rw [past']
    rintro found name ⟨id, since, earlier, parts, quiet⟩ named
    -- the session was read just now, or before a call that writes no session
    cases since with
    | nil =>
        cases parts
        obtain ⟨stamp, told, changed⟩ := answers
        have current : before.scene.store.getSession id = some found := (Except.ok.inj told).symm
        have same : id = name := Option.some.inj ((shape.sessionNamed current).symm.trans named)
        rw [changed, ← same]
        exact current
    | cons entry rest =>
        cases parts
        have stands := fresh found name
          ⟨id, rest, earlier, rfl, fun other member => quiet other (List.mem_cons_of_mem _ member)⟩
          named
        have unwritten := quiet _ List.mem_cons_self
        rcases answers.effect with same | ⟨asked, stamp, rfl, changed⟩
        · rw [same]
          exact stands
        · rw [changed]
          exact (Store.answer_getSession unwritten stamp name).trans stands
  case looked =>
    rw [past']
    intro looks
    have same := looked fun entry member => looks entry (List.mem_cons_of_mem _ member)
    have look := looks _ List.mem_cons_self
    rw [← same]
    rcases answers.effect with unchanged | ⟨asked, stamp, rfl, changed⟩
    · rw [unchanged]
    · cases asked with
      | getSession => rw [changed]; rfl
      | _ => cases look

end Resuming

theorem resuming_of_alone {start place after : Workplace ι} {index : ι}
    (resuming : Resuming start place index) (alone : Alone index Nothing place after) :
    Resuming start after index := by
  induction alone with
  | refl => exact resuming
  | tail _ goes resuming =>
      cases goes with
      | tick later =>
          exact ⟨resuming.reached.step (.tick later), resuming.follows, resuming.granted,
            resuming.fresh, resuming.looked⟩
      | answer calls answers turn => exact resuming.answer calls answers turn
      | refuse may => exact may.elim

/-- From whatever is reached, and whatever events begin before its time has come, a session that
waits for a timer stays as it is or is ended as cancelled, and no node is begun for it: a run would
put that on record, see `Run.run_logged`. A timer event that is ignored, with a store that refuses
nothing, has left the store as it was and has only looked at sessions and at the clock. -/
theorem suspended_session_stays {place : Workplace ι} (reached : Reached place) :
    (∀ id session resumeAt after, place.scene.store.getSession id = some session →
      session.isActive = true → session.status = .awaitingTimer →
      session.resumeAt = some resumeAt →
      Relation.ReflTransGen (Passes place resumeAt) place after →
      (∃ row, after.scene.store.getSession id = some row ∧ session.StaysOrEnds row) ∧
        after.scene.store.nodeStarts id = place.scene.store.nodeStarts id) ∧
    (∀ index settings conversation session node begun after past report,
      Begun place begun index settings (.resume conversation session node) →
      Alone index Nothing begun after → after.worker index = ⟨past, .done (some report)⟩ →
      report.status = .ignored →
      after.scene.store = place.scene.store ∧
        ∀ entry ∈ past, entry.request.isLook = true) := by
  constructor
  · intro id session resumeAt after stands _ waiting due path
    have parked := parked_of_passes reached stands waiting due path
    exact ⟨parked.row, parked.log⟩
  · intro index settings conversation session node begun after past report begins alone ends ignored
    have resuming := resuming_of_alone (begins.resuming reached) alone
    have follows := resuming.follows
    have granted := resuming.granted
    have looked := resuming.looked
    rw [ends] at follows granted looked
    rcases follows.at_done report rfl ignored with denied | ⟨since, same, looks⟩
    · exact absurd denied granted
    · rw [List.append_nil] at same
      subst same
      exact ⟨looked looks, looks⟩

theorem passes_play (settings : EngineSettings) {place now : Workplace Unit} {time : Stamp}
    (quiet : (place.worker ()).IsIdle) (early : now.scene.time.Before time) (cues : List (Cue Unit))
    (still : ∀ cue ∈ cues, ∀ later, cue ≠ .wait later) :
    Relation.ReflTransGen (Passes place time) now (now.play settings cues) := by
  induction cues generalizing now with
  | nil => exact .refl
  | cons cue rest ih =>
      have sameTime := act_time settings now (still cue List.mem_cons_self)
      have later : (now.act settings cue).scene.time.Before time := by
        rw [sameTime]
        exact early
      have tail := ih later fun other member => still other (List.mem_cons_of_mem _ member)
      rcases act_step settings now cue with same | step
      · rw [same] at tail
        show Relation.ReflTransGen (Passes place time) now ((now.act settings cue).play settings rest)
        rw [same]
        exact tail
      · have passes : Passes place time now (now.act settings cue) :=
          ⟨step, later, fun _ busy => absurd quiet busy⟩
        exact .head passes tail

/-- A session waits five seconds for its timer. -/
def parked : Workplace Unit :=
  (emptyPlace Unit).play sampleSettings (openingCues () 5 ++ List.replicate 20 (.go ()))

/-- A poll and a message come too early. -/
def disturbance : List (Cue Unit) :=
  .order () .poll :: List.replicate 4 (.go ()) ++
    .order () (.inbound ⟨"org_1", none, "conv_1", some "hello", "text", none, none⟩) ::
    List.replicate 4 (.go ())

/-- A timer event that comes too early has begun. -/
def prompted : Workplace Unit :=
  parked.set parked.scene ()
    ⟨[], Operation.program sampleSettings (.resume "conv_1" "session-0001" "pause")⟩

def reportOf? (worker : Worker) : Option EventReport :=
  match worker.rest with
  | .done report => report
  | _ => none

theorem reportOf?_eq_some {worker : Worker} {report : EventReport}
    (known : reportOf? worker = some report) : worker = ⟨worker.past, .done (some report)⟩ := by
  obtain ⟨past, rest⟩ := worker
  unfold reportOf? at known
  dsimp only at known
  split at known
  · next same =>
      rw [known]
  · cases known

theorem suspended_session_stays_parked :
    (∃ session row, parked.scene.store.getSession "session-0001" = some session ∧
      session.status = .awaitingTimer ∧
      (parked.play sampleSettings disturbance).scene.store.getSession "session-0001" = some row ∧
      session.StaysOrEnds row) ∧
    ∃ after : Workplace Unit, Alone () Nothing prompted after ∧
      after.scene.store = parked.scene.store := by
  have reached : Reached parked := Reached.play (.start default) _
  have idle : (parked.worker ()).IsIdle := by decide +kernel
  obtain ⟨stays, looks⟩ := suspended_session_stays reached
  constructor
  · have waits : (parked.scene.store.getSession "session-0001").any (fun session =>
        session.isActive && session.status = .awaitingTimer &&
          session.resumeAt.any fun resumeAt =>
            parked.scene.time.before? resumeAt = some true) = true := by decide +kernel
    obtain ⟨session, stands, waits⟩ := (Option.any_eq_true _ _).mp waits
    simp only [Bool.and_eq_true, decide_eq_true_eq, Option.any_eq_true] at waits
    obtain ⟨⟨active, waiting⟩, resumeAt, due, early⟩ := waits
    have path := passes_play sampleSettings idle early disturbance (by
      intro cue member later same
      subst same
      simp [disturbance] at member)
    obtain ⟨⟨row, later, either⟩, _⟩ :=
      stays "session-0001" session resumeAt _ stands active waiting due path
    exact ⟨session, row, stands, waiting, later, either⟩
  · have begun : Begun parked prompted () sampleSettings
        (.resume "conv_1" "session-0001" "pause") :=
      ⟨idle, rfl, parked.set_turn parked.scene () _⟩
    have alone := alone_play sampleSettings prompted () Nothing 3
    have ends : (reportOf? ((prompted.play sampleSettings (List.replicate 3 (.go ()))).worker
        ())).any (fun report => report.status = .ignored) = true := by decide +kernel
    obtain ⟨report, known, ignored⟩ := (Option.any_eq_true _ _).mp ends
    refine ⟨_, alone, (looks () sampleSettings _ _ _ prompted _ _ report begun alone
      (reportOf?_eq_some known) (of_decide_eq_true ignored)).1⟩

end Workplace

end ChatFlow

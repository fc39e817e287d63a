import ChatFlow.Proofs.Errands
import ChatFlow.Proofs.TimerCalls
import ChatFlow.Proofs.TimerJobs
/-
Timer jobs and several workers. A job is stored before its session is suspended, and in between
another worker may poll. If the session is suspended before it is due, its job is kept until the
session is written again; if it is due by then, a poll in between takes the job away for good.
-/

set_option autoImplicit false

namespace ChatFlow

open Program EnginePast

/-- A session has an unmarked job for its node and time. -/
def Scene.HasJob (scene : Scene) (session : Session) : Prop :=
  ∃ name job, Table.lookup? name scene.store.delays = some job ∧ job.processed = false ∧
    job.IsFor session

namespace Workplace

variable {ι : Type}

/-- The write of a session that a worker is about to make succeeds. -/
def Writes (before after : Workplace ι) (index : ι) (session : Session) (expected : Int)
    (stored : Session) : Prop :=
  ∃ (past : EnginePast) (next : Except Fault Session → Engine (Option EventReport)),
    before.worker index = ⟨past, .call (.store (.updateSession session expected)) next⟩ ∧
      before.scene.Answers (.store (.updateSession session expected)) (.ok stored) after.scene ∧
      Turn before after index
        ⟨⟨.store (.updateSession session expected), .ok stored⟩ :: past, next (.ok stored)⟩

/-! ### Suspensions in time -/

theorem Steps.attended {place final : Workplace ι} (steps : Steps place final)
    (reached : Reached place) {id : String} {session : Session}
    (start : place.scene.store.getSession id = some session) (active : session.isActive = true)
    (waiting : session.status = .awaitingTimer) (attended : Attended place session)
    (stands : final.scene.store.getSession id = some session) : Attended final session := by
  have shape := reached.informed.shape
  have named := shape.sessionNamed start
  -- a row that stands at the end stood all along, since revisions only rise
  have along : final.scene.store.Known session ∧
      (final.scene.store.getSession id = some session → Attended final session) := by
    clear stands
    induction steps with
    | refl => exact ⟨Store.known_of_row shape start active, fun _ => attended⟩
    | @tail middle final earlier step ih =>
        have between := reached.steps earlier
        have evolves := step.evolves between
        refine ⟨evolves.known ih.1, ?_⟩
        intro stands
        have stood : middle.scene.store.getSession id = some session :=
          Classical.byContradiction fun gone => gone_of_gone evolves ih.1 named gone stands
        exact step.attended between.mannered between.sound stood stands active waiting (ih.2 stood)
  exact along.2 stands

theorem Writes.answering {before after : Workplace ι} {index : ι} {session stored : Session}
    {expected : Int} (writes : Writes before after index session expected stored)
    (reached : Reached before) :
    ∃ past, Answering before after index past (.store (.updateSession session expected))
      (.ok stored) := by
  obtain ⟨past, next, calls, answers, turn⟩ := writes
  exact ⟨past, reached.mannered.answering calls answers turn⟩

theorem job_kept_of_timely {before after final : Workplace ι} (reached : Reached before)
    {index : ι} {session stored : Session} {expected : Int}
    (writes : Writes before after index session expected stored) (active : session.isActive = true)
    (waiting : session.status = .awaitingTimer)
    (timely : Timely before.scene (.store (.updateSession session expected)))
    (steps : Steps after final)
    (stands : final.scene.store.getSession (Store.sessionName session) = some stored) :
    final.scene.HasJob stored := by
  obtain ⟨past, answering⟩ := writes.answering reached
  have sound := reached.sound
  have next : Reached after := by
    obtain ⟨past, next, calls, answers, turn⟩ := writes
    exact reached.step (.answer calls answers turn)
  obtain ⟨stamp, answered, changed⟩ := answering.answers
  have updated := Store.updateSession_ok (Store.changing_ok answered.symm)
  obtain ⟨id, found, replaces⟩ := replaces_of_updated (answering.holds sound.toInformed)
    answering.warranted updated
  have replaced : Replaces past before.scene.store id found session expected stamp stored
      after.scene.store := by
    rw [changed]
    exact replaces
  have called : Store.sessionName session = id := Store.sessionName_of_id replaces.named
  rw [called] at stands
  have written : after.scene.store.getSession id = some stored :=
    (replaced.rows id).trans (if_pos rfl)
  have active : stored.isActive = true := by rw [updated.row]; exact active
  have waiting : stored.status = .awaitingTimer := by rw [updated.row]; exact waiting
  have attended := answering.attended_of_new sound replaced (Or.inr timely) active waiting
  obtain ⟨name, job, present, fits, clear⟩ :=
    Steps.attended steps next written active waiting attended stands
  obtain ⟨row, found, unmarked⟩ := clear.unmarked
  rw [present] at found
  cases found
  exact ⟨name, job, present, unmarked, fits⟩

/-! ### Polls in between -/

/-- A poll has been told of jobs and has dealt with them, unless a look has failed. -/
def Polled (past : EnginePast) : Prop :=
  Unanswered past ∨ ∃ (now : Stamp) (jobs : List Delay), Told past (.pendingDelays now) jobs ∧
    ∀ job ∈ jobs, Timer.Dealt past job

theorem poll_polled (settings : EngineSettings) :
    Follows OfTimer (fun later _ => Polled later) (Operation.program settings .poll) [] := by
  have polled : Follows OfTimer (fun later _ => Polled later)
      (discard (Timer.poll settings)) [] :=
    (Timer.poll_ofTimer []).discards (fun _ _ polled => polled) fun _ _ polled => polled
  exact polled.bind (fun _ _ _ polled => Follows.done polled) fun _ _ _ polled => polled

/-- The calls that the store may refuse while another worker polls: only those that touch a session,
and only where that waits for a timer. -/
def MayRefuse (id : String) (row : Session) (request : StoreCall) : Prop :=
  row.status = .awaitingTimer ∧ request.Touches id

/-- A worker polls, and a session stays as it is. What the worker was told of the session and of its
jobs is so, and what it has marked is marked. -/
structure Polling (start place : Workplace ι) (index : ι) (id : String) (row : Session) : Prop where
  reached : Reached place
  time : place.scene.time = start.scene.time
  others : ∀ other, other ≠ index → place.worker other = start.worker other
  stands : place.scene.store.getSession id = some row
  follows : Follows OfTimer (fun later (_ : Except Fault (Option EventReport)) => Polled later)
    (place.worker index).rest (place.worker index).past
  kinds : ∀ entry ∈ (place.worker index).past, entry.request.isOfTimers = true
  answered : ¬Unanswered (place.worker index).past
  clocked : ∀ now, Clocked (place.worker index).past now → now = start.scene.time
  read : ∀ found, Told (place.worker index).past (.getSession id) (some found) → found = row
  listed : ∀ (now : Stamp) (jobs : List Delay), Told (place.worker index).past (.pendingDelays now) jobs →
    ∀ name job, Table.lookup? name place.scene.store.delays = some job → job.session = id →
      job.processed = false → start.scene.time.NotBefore job.resumeAt →
      ∃ seen ∈ jobs, seen.id = some name ∧ seen.SameJob job
  marked : ∀ name answer, Told (place.worker index).past (.markDelay name) answer →
    ∀ job, Table.lookup? name place.scene.store.delays = some job → job.session = id →
      job.processed = true

namespace Polling

variable {start before after : Workplace ι} {index : ι} {id : String} {row : Session}

theorem untouched (polling : Polling start before index id row) {past : EnginePast}
    {request : StoreCall} {next : Except Fault request.Answer → Engine (Option EventReport)}
    (calls : before.worker index = ⟨past, .call (.store request) next⟩)
    (open_ : ¬MayRefuse id row request) : ¬request.Touches id := by
  intro touches
  have holds := polling.reached.informed.holds index
  have kinds := polling.kinds
  have read := polling.read
  have allowed := polling.follows
  rw [calls] at holds kinds read allowed
  have warranted := (polling.reached.mannered.at_call calls).1
  -- a poll runs no session but one that it read while that waited for a timer
  have still {found : Session} (movable : Movable past found) (named : found.id = some id) :
      False := by
    cases movable with
    | made told => cases kinds _ told
    | answered told => cases kinds _ told
    | @due other _ told _ waiting =>
        have same : other = id := Option.some.inj ((holds.read told).symm.trans named)
        subst same
        rw [read found told] at waiting
        exact open_ ⟨waiting, touches⟩
  cases request with
  | updateSession session expected =>
      obtain ⟨found, movable, _, same, _⟩ := allowed.at_call.1
      obtain ⟨name, _, named, _⟩ := holds.saw movable.saw
      have called : Store.sessionName session = name := Store.sessionName_of_id (same.trans named)
      have here : name = id := called.symm.trans touches
      exact still movable (here ▸ named)
  | saveDelay job =>
      obtain ⟨_, found, movable, named, _⟩ := warranted
      have here : job.session = id := touches
      exact still movable (here ▸ named)
  | _ => exact touches

section Answered

variable {past : EnginePast} {request : Call}
  {next : Except Fault request.Answer → Engine (Option EventReport)}
  {reply : Except Fault request.Answer} {later : Scene}

theorem frame (polling : Polling start before index id row)
    (calls : before.worker index = ⟨past, .call request next⟩)
    (open_ : ∀ asked, request = .store asked → ¬MayRefuse id row asked)
    (answers : before.scene.Answers request reply later) :
    later.store.getSession id = some row ∧
      ∀ name job, Table.lookup? name later.store.delays = some job → job.session = id →
        ∃ old, Table.lookup? name before.scene.store.delays = some old ∧ old.SameJob job ∧
          (job.processed = false → old.processed = false) := by
  rcases answers.effect with same | ⟨asked, stamp, rfl, same⟩
  · rw [same]
    exact ⟨polling.stands, fun name job present _ => ⟨job, present, .refl job, fun open_ => open_⟩⟩
  · have apart := polling.untouched calls (open_ asked rfl)
    rw [same]
    refine ⟨?_, fun name job present owner => ?_⟩
    · exact Store.getSession_of_untouched polling.reached.informed.shape apart polling.stands stamp
    · exact Store.job_of_untouched apart stamp present owner

/-- What was listed when jobs were asked for is still so. The answer may be the list itself. -/
theorem listed_answered (polling : Polling start before index id row)
    (calls : before.worker index = ⟨past, .call request next⟩)
    (open_ : ∀ asked, request = .store asked → ¬MayRefuse id row asked)
    (answers : before.scene.Answers request reply later) {now : Stamp} {jobs : List Delay}
    (told : Told (⟨request, reply⟩ :: past) (.pendingDelays now) jobs) {name : String} {job : Delay}
    (present : Table.lookup? name later.store.delays = some job) (owner : job.session = id)
    (unmarked : job.processed = false) (ahead : start.scene.time.NotBefore job.resumeAt) :
    ∃ seen ∈ jobs, seen.id = some name ∧ seen.SameJob job := by
  obtain ⟨old, stood, like, stayed⟩ := (polling.frame calls open_ answers).2 name job present owner
  have same : old.session = id := by
    rw [← owner, like]
  have early : start.scene.time.NotBefore old.resumeAt := by
    rw [like] at ahead
    exact ahead
  have warranted := (polling.reached.mannered.at_call calls).1
  have clocked := polling.clocked
  have listed := polling.listed
  rw [calls] at clocked listed
  rcases EnginePast.Holds.told_cons told with head | tail
  · cases head
    obtain ⟨stamp, told, _⟩ := answers
    -- jobs are listed by the time that was read just before
    have first : past = [⟨.clock, .ok now⟩] := warranted
    rw [first] at clocked
    have shown : now = start.scene.time := clocked now List.mem_cons_self
    have shape := polling.reached.informed.shape
    refine ⟨old, ?_, shape.delayNamed stood, like⟩
    refine (Store.mem_pendingDelays told.symm old).mpr
      ⟨⟨name, Table.mem_of_lookup? stood⟩, stayed unmarked, ?_⟩
    rw [shown]
    exact early
  · obtain ⟨seen, member, named, like'⟩ :=
      listed now jobs tail name old stood same (stayed unmarked) early
    exact ⟨seen, member, named, like'.trans like⟩

theorem marked_answered (polling : Polling start before index id row)
    (calls : before.worker index = ⟨past, .call request next⟩)
    (open_ : ∀ asked, request = .store asked → ¬MayRefuse id row asked)
    (answers : before.scene.Answers request reply later) {name : String} {answer : Bool}
    (told : Told (⟨request, reply⟩ :: past) (.markDelay name) answer) {job : Delay}
    (present : Table.lookup? name later.store.delays = some job) (owner : job.session = id) :
    job.processed = true := by
  obtain ⟨old, stood, like, stayed⟩ := (polling.frame calls open_ answers).2 name job present owner
  have same : old.session = id := by
    rw [← owner, like]
  have marked := polling.marked
  rw [calls] at marked
  rcases EnginePast.Holds.told_cons told with head | tail
  · cases head
    obtain ⟨stamp, _, changed⟩ := answers
    rw [changed] at present
    have found := (Store.lookup?_markDelay name name stamp before.scene.store).symm.trans present
    rw [if_pos rfl] at found
    obtain ⟨first, _, become⟩ := Option.map_eq_some_iff.mp found
    rw [← become]
    split
    · next already => exact already
    · rfl
  · have done := marked name answer tail old stood same
    refine eq_true_of_ne_false fun unmarked => ?_
    rw [stayed unmarked] at done
    cases done

theorem answer (polling : Polling start before index id row)
    (calls : before.worker index = ⟨past, .call request next⟩)
    (open_ : ∀ asked, request = .store asked → ¬MayRefuse id row asked)
    (answers : before.scene.Answers request reply after.scene)
    (turn : Turn before after index ⟨⟨request, reply⟩ :: past, next reply⟩) :
    Polling start after index id row := by
  have replies := polling.reached.reply_ok calls answers
  have follows := polling.follows
  have kinds := polling.kinds
  have answered := polling.answered
  have clocked := polling.clocked
  have read := polling.read
  rw [calls] at follows kinds answered clocked read
  have past' : (after.worker index).past = ⟨request, reply⟩ :: past := by rw [turn.1]
  constructor
  case reached => exact polling.reached.step (.answer calls answers turn)
  case time => exact answers.time.trans polling.time
  case others => exact fun other apart => (turn.2 other apart).trans (polling.others other apart)
  case stands => exact (polling.frame calls open_ answers).1
  case follows =>
    rw [turn.1]
    exact follows.at_call.2 reply
  case kinds =>
    rw [past']
    intro entry member
    rcases List.mem_cons.mp member with head | tail
    · rw [head]
      exact follows.at_call.1.isOfTimers
    · exact kinds entry tail
  case answered =>
    rw [past']
    rintro ⟨asked, fault, member, kind⟩
    rcases List.mem_cons.mp member with head | tail
    · cases head
      obtain ⟨value, ok⟩ := replies kind
      cases ok
    · exact answered ⟨asked, fault, tail, kind⟩
  case clocked =>
    rw [past']
    intro now shown
    rcases List.mem_cons.mp shown with head | tail
    · cases head
      obtain ⟨told, _⟩ := answers
      cases told
      exact polling.time
    · exact clocked now tail
  case read =>
    rw [past']
    intro found told
    rcases EnginePast.Holds.told_cons told with head | tail
    · cases head
      obtain ⟨stamp, told, _⟩ := answers
      have current : some found = before.scene.store.getSession id := Except.ok.inj told
      exact Option.some.inj (current.trans polling.stands)
    · exact read found tail
  case listed =>
    rw [past']
    intro now jobs told name job present owner unmarked ahead
    exact polling.listed_answered calls open_ answers told present owner unmarked ahead
  case marked =>
    rw [past']
    intro name answer told job present owner
    exact polling.marked_answered calls open_ answers told present owner

end Answered

theorem refuse (polling : Polling start before index id row) {past : EnginePast}
    {request : StoreCall} {next : Except Fault request.Answer → Engine (Option EventReport)}
    {fault : Fault} (calls : before.worker index = ⟨past, .call (.store request) next⟩)
    (may : MayRefuse id row request) (same : after.scene = before.scene)
    (turn : Turn before after index ⟨⟨.store request, .error fault⟩ :: past, next (.error fault)⟩) :
    Polling start after index id row := by
  have fewer : Fewer (after.worker index).past (before.worker index).past := by
    rw [turn.1, calls]
    exact .refused past request fault
  have follows := polling.follows
  have kinds := polling.kinds
  have answered := polling.answered
  rw [calls] at follows kinds answered
  have past' : (after.worker index).past = ⟨.store request, .error fault⟩ :: past := by rw [turn.1]
  constructor
  case reached => exact polling.reached.step (.refuse calls same turn)
  case time => exact (congrArg Scene.time same).trans polling.time
  case others => exact fun other apart => (turn.2 other apart).trans (polling.others other apart)
  case stands =>
    rw [same]
    exact polling.stands
  case follows =>
    rw [turn.1]
    exact follows.at_call.2 (.error fault)
  case kinds =>
    rw [past']
    intro entry member
    rcases List.mem_cons.mp member with head | tail
    · rw [head]
      exact follows.at_call.1.isOfTimers
    · exact kinds entry tail
  case answered =>
    rw [past']
    rintro ⟨asked, fault', member, kind⟩
    rcases List.mem_cons.mp member with head | tail
    · cases head
      have touches := may.2
      cases request with
      | updateSession | saveDelay => cases kind
      | _ => exact touches
    · exact answered ⟨asked, fault', tail, kind⟩
  case clocked => exact fun now shown => polling.clocked now (fewer.clocked shown)
  case read => exact fun found told => polling.read found (fewer.told told)
  case listed =>
    rw [same]
    exact fun now jobs told => polling.listed now jobs (fewer.told told)
  case marked =>
    rw [same]
    exact fun name answer told => polling.marked name answer (fewer.told told)

/-- When the poll has come to its end, no job is left for a session that is due and does not wait at
its node. -/
theorem no_job (polling : Polling start after index id row) (idle : (after.worker index).IsIdle)
    {conversation node : String} (elsewhere : ¬row.WaitsAt conversation node) {resumeAt : Stamp}
    (due : start.scene.time.NotBefore resumeAt) {name : String} {job : Delay}
    (present : Table.lookup? name after.scene.store.delays = some job) (owner : job.session = id)
    (place : job.conversation = conversation) (here : job.node = node)
    (time : job.resumeAt = resumeAt) : job.processed = true := by
  have polled : Polled (after.worker index).past := by
    have follows := polling.follows
    unfold Worker.IsIdle at idle
    generalize after.worker index = worker at follows idle
    obtain ⟨past, rest⟩ := worker
    cases rest with
    | done value => exact follows.at_done
    | fail fault => exact follows.at_fail
    | call request next => exact idle.elim
  refine eq_true_of_ne_false fun unmarked => ?_
  rcases polled with failed | ⟨now, jobs, told, dealt⟩
  · exact polling.answered failed
  · have ahead : start.scene.time.NotBefore job.resumeAt := time ▸ due
    obtain ⟨seen, member, named, like⟩ :=
      polling.listed now jobs told name job present owner unmarked ahead
    cases dealt seen member with
    | marked told =>
        rw [named] at told
        have done := polling.marked name _ told job present owner
        rw [unmarked] at done
        cases done
    | waited waited =>
        rcases waited with ⟨found, read, waits⟩ | failed
        · unfold Delay.SameJob at like
          rw [like] at owner place here
          rw [owner] at read
          rw [polling.read found read, place, here] at waits
          exact elsewhere waits
        · exact polling.answered failed

end Polling

theorem Begun.polling {place begun : Workplace ι} {index : ι} {settings : EngineSettings}
    (begins : Begun place begun index settings .poll) (reached : Reached place) {id : String}
    {row : Session} (stands : place.scene.store.getSession id = some row) :
    Polling place begun index id row where
  reached := reached.step begins.step
  time := congrArg Scene.time begins.same
  others other apart := begins.turn.2 other apart
  stands := by rw [begins.same]; exact stands
  follows := by
    rw [begins.turn.1]
    exact poll_polled settings
  kinds := by
    rw [begins.turn.1]
    exact fun _ member => nomatch member
  answered := by
    rw [begins.turn.1]
    rintro ⟨_, _, member, _⟩
    cases member
  clocked := by
    rw [begins.turn.1]
    exact fun _ shown => nomatch shown
  read := by
    rw [begins.turn.1]
    exact fun _ told => nomatch told
  listed := by
    rw [begins.turn.1]
    exact fun _ _ told => nomatch told
  marked := by
    rw [begins.turn.1]
    exact fun _ _ told => nomatch told

/-- The session that is about to be written is the one that was read, if its revision is the
expected one. -/
theorem Reached.writable {place : Workplace ι} (reached : Reached place) {index : ι}
    {past : EnginePast} {session row : Session} {expected : Int}
    {next : Except Fault (Call.store (.updateSession session expected)).Answer →
      Engine (Option EventReport)}
    (calls : place.worker index = ⟨past, .call (.store (.updateSession session expected)) next⟩)
    (stands : place.scene.store.getSession (Store.sessionName session) = some row)
    (agreed : row.revision = expected) :
    session.id = some (Store.sessionName session) ∧ row.isActive = true ∧
      session.conversation = row.conversation := by
  have holds := reached.informed.holds index
  rw [calls] at holds
  obtain ⟨found, rewrites⟩ := (reached.mannered.at_call calls).1
  obtain ⟨id, current, named, active, stood, aged⟩ := holds.saw rewrites.saw
  have name : session.id = some id := rewrites.id.trans named
  have called : Store.sessionName session = id := Store.sessionName_of_id name
  rw [called] at stands ⊢
  have same : current = row := Option.some.inj (stood.symm.trans stands)
  have read : current = found := by
    -- a later row would have a revision that is not the expected one
    rcases aged with equal | older
    · exact equal
    · rw [same, agreed, rewrites.revision] at older
      exact absurd older (Int.lt_irrefl _)
  rw [← same, read]
  exact ⟨name, active, rewrites.place⟩

theorem exists_write {place : Workplace ι} (reached : Reached place) {index : ι}
    {past : EnginePast} {session row : Session} {expected : Int}
    {next : Except Fault (Call.store (.updateSession session expected)).Answer →
      Engine (Option EventReport)}
    (calls : place.worker index = ⟨past, .call (.store (.updateSession session expected)) next⟩)
    (stands : place.scene.store.getSession (Store.sessionName session) = some row)
    (agreed : row.revision = expected) :
    ∃ after stored, Writes place after index session expected stored ∧
      Store.Updated place.scene.store session expected place.scene.time stored
        after.scene.store := by
  obtain ⟨named, active, same⟩ := reached.writable calls stands agreed
  obtain ⟨stored, later, done⟩ := Store.updateSession_succeeds reached.informed.shape named stands
    active same agreed place.scene.time
  have answered : place.scene.store.answer place.scene.time (.updateSession session expected) =
      (.ok stored, later) := by
    show Store.changing place.scene.store
      (place.scene.store.updateSession session expected place.scene.time) = _
    rw [done]
    rfl
  obtain ⟨after, scene, turn⟩ := place.exists_turn { place.scene with store := later } index
    ⟨⟨.store (.updateSession session expected), .ok stored⟩ :: past, next (.ok stored)⟩
  refine ⟨after, stored, ⟨past, next, calls, ⟨place.scene.time, ?_, ?_⟩, turn⟩, ?_⟩
  · exact (congrArg Prod.fst answered).symm
  · rw [answered, scene]
  · rw [scene]
    exact Store.updateSession_ok done

/-! ### When a job is kept -/

/-- A session that is not suspended in time is due, and does not wait yet where it is to wait. -/
theorem due_of_untimely {place : Workplace ι} (reached : Reached place) {index : ι}
    {past : EnginePast} {session : Session} {expected : Int}
    {next : Except Fault (Call.store (.updateSession session expected)).Answer →
      Engine (Option EventReport)}
    (calls : place.worker index = ⟨past, .call (.store (.updateSession session expected)) next⟩)
    (untimely : ¬Timely place.scene (.store (.updateSession session expected))) :
    ∃ row resumeAt, place.scene.store.getSession (Store.sessionName session) = some row ∧
      row.revision = expected ∧ session.resumeAt = some resumeAt ∧
      place.scene.time.NotBefore resumeAt ∧
      ¬row.WaitsAt session.conversation session.currentNode := by
  have sound := reached.sound
  have holds := sound.holds index
  rw [calls] at holds
  obtain ⟨found, rewrites⟩ := (reached.mannered.at_call calls).1
  unfold Timely at untimely
  simp only [Classical.not_forall, not_or] at untimely
  obtain ⟨row, resumeAt, stands, agreed, active, waiting, time, late, elsewhere⟩ := untimely
  refine ⟨row, resumeAt, stands, agreed, time, ?_, elsewhere⟩
  obtain ⟨given, stored, armed, fits, _⟩ := rewrites.armed active waiting
  have same : given.resumeAt = resumeAt := Option.some.inj (fits.time.symm.trans time)
  obtain ⟨name, called, kept⟩ := holds.saved armed.told
  have armed' : Armed (place.worker index).past found given stored := by
    rw [calls]
    exact armed
  have named : stored.id = some name := by rw [called]
  obtain ⟨job, present, like⟩ := sound.saved_row armed' named
  have kind := reached.oneClock name job present
  have compared : place.scene.time.offset.isSome = resumeAt.offset.isSome := by
    rw [kind, like, ← same]
  have order := Stamp.before?_eq place.scene.time resumeAt
  rw [if_pos compared] at order
  rcases Stamp.before_or_notBefore order with before | reached
  · exact absurd before late
  · exact reached

/-- A session that is suspended keeps its job, whatever else goes on and until it is written again,
exactly if it is suspended in time. Otherwise a poll of another worker may come before the write and
leave the session without a job; the store need not fail for that, unless the session waits for
another timer and that is taken up by the same poll. -/
theorem suspension_keeps_job_exactly {place : Workplace ι} (reached : Reached place)
    {index other : ι} {past : EnginePast} {session : Session} {expected : Int}
    {next : Except Fault (Call.store (.updateSession session expected)).Answer →
      Engine (Option EventReport)}
    (calls : place.worker index = ⟨past, .call (.store (.updateSession session expected)) next⟩)
    (active : session.isActive = true) (waiting : session.status = .awaitingTimer)
    (apart : other ≠ index) (idle : (place.worker other).IsIdle) (settings : EngineSettings) :
    (Timely place.scene (.store (.updateSession session expected)) →
      ∀ after final stored, Writes place after index session expected stored →
        Steps after final →
        final.scene.store.getSession (Store.sessionName session) = some stored →
        final.scene.HasJob stored) ∧
    (¬Timely place.scene (.store (.updateSession session expected)) →
      ∃ row begun ready after stored,
        place.scene.store.getSession (Store.sessionName session) = some row ∧
        Begun place begun other settings .poll ∧
        Alone other (MayRefuse (Store.sessionName session) row) begun ready ∧
        Writes ready after index session expected stored ∧
        after.scene.store.getSession (Store.sessionName session) = some stored ∧
        ¬after.scene.HasJob stored) := by
  constructor
  · intro timely after final stored writes steps stands
    exact job_kept_of_timely reached writes active waiting timely steps stands
  · intro untimely
    obtain ⟨row, resumeAt, stands, agreed, time, due, elsewhere⟩ :=
      due_of_untimely reached calls untimely
    obtain ⟨begun, scene, turn⟩ :=
      place.exists_turn place.scene other ⟨[], Operation.program settings .poll⟩
    have begins : Begun place begun other settings .poll := ⟨idle, scene, turn⟩
    let keeps (later : Workplace ι) : Prop :=
      Polling place later other (Store.sessionName session) row
    obtain ⟨ready, alone, polling, finished⟩ :=
      @exists_idle ι other (MayRefuse (Store.sessionName session) row) keeps
        (fun known calls open_ answers turn => Polling.answer known calls open_ answers turn)
        (fun known calls may same turn => Polling.refuse known calls may same turn)
        begun (begins.polling reached stands)
    have calls' : ready.worker index =
        ⟨past, .call (.store (.updateSession session expected)) next⟩ :=
      (polling.others index (Ne.symm apart)).trans calls
    -- the poll has left the session and its revision alone, so that the write goes through
    obtain ⟨after, stored, writes, updated⟩ :=
      exists_write polling.reached calls' polling.stands agreed
    refine ⟨row, begun, ready, after, stored, stands, begins, alone, writes, ?_, ?_⟩
    · exact (updated.rows _).trans (if_pos rfl)
    · rintro ⟨name, job, present, unmarked, fits⟩
      rw [updated.delays] at present
      have named := (polling.reached.writable calls' polling.stands agreed).1
      have owner := fits.owner
      have place' := fits.place
      have node := fits.node
      have late := fits.time
      rw [updated.row] at owner place' node late
      have here : job.session = Store.sessionName session :=
        Option.some.inj (owner.symm.trans named)
      have same : job.resumeAt = resumeAt := Option.some.inj (late.symm.trans time)
      have marked := polling.no_job finished elsewhere due present here place'.symm node.symm same
      rw [unmarked] at marked
      cases marked

/-- A flow is started, and its session is about to be suspended for some seconds, while another
worker has nothing to do. -/
def suspending (seconds : Nat) : Workplace Bool :=
  (emptyPlace Bool).play sampleSettings (openingCues false seconds ++ List.replicate 8 (.go false))

theorem suspending_reached (seconds : Nat) : Reached (suspending seconds) :=
  Reached.play (.start default) _

/-- What is so of the session that is about to be suspended, and of its row. -/
def suspends (place : Workplace Bool) (early : Bool) (write : Session × Int) : Bool :=
  write.1.id = some "session-0001" && write.1.isActive && write.1.status = .awaitingTimer &&
    (write.1.resumeAt.any fun resumeAt => place.scene.time.before? resumeAt = some early) &&
    (place.scene.store.getSession "session-0001").any fun row =>
      row.revision = write.2 && row.status = .running

theorem suspending_suspends {seconds : Nat} {early : Bool}
    (known : (writing? ((suspending seconds).worker false)).any (suspends (suspending seconds) early)) :
    ∃ (past : EnginePast) (session : Session) (expected : Int)
      (next : Except Fault (Call.store (.updateSession session expected)).Answer →
        Engine (Option EventReport)) (row : Session) (resumeAt : Stamp),
      (suspending seconds).worker false =
        ⟨past, .call (.store (.updateSession session expected)) next⟩ ∧
      Store.sessionName session = "session-0001" ∧ session.isActive = true ∧
      session.status = .awaitingTimer ∧ session.resumeAt = some resumeAt ∧
      (suspending seconds).scene.time.before? resumeAt = some early ∧
      (suspending seconds).scene.store.getSession "session-0001" = some row ∧
      row.revision = expected ∧ row.status = .running := by
  obtain ⟨⟨session, expected⟩, writes, known⟩ := (Option.any_eq_true _ _).mp known
  obtain ⟨past, next, calls⟩ := writing?_eq_some writes
  unfold suspends at known
  simp only [Bool.and_eq_true, decide_eq_true_eq, Option.any_eq_true] at known
  obtain ⟨⟨⟨⟨named, active⟩, waiting⟩, resumeAt, time, order⟩, row, stands, agreed, running⟩ := known
  have called : Store.sessionName session = "session-0001" := Store.sessionName_of_id named
  exact ⟨past, session, expected, next, row, resumeAt, calls, called, active, waiting, time, order,
    stands, agreed, running⟩

theorem suspension_keeps_job_exactly_suspending :
    (∃ session expected, ∀ after final stored,
      Writes (suspending 5) after false session expected stored → Steps after final →
      final.scene.store.getSession "session-0001" = some stored → final.scene.HasJob stored) ∧
    ∃ session expected ready after stored, Steps (suspending 0) ready ∧
      Writes ready after false session expected stored ∧
      after.scene.store.getSession "session-0001" = some stored ∧ ¬after.scene.HasJob stored := by
  have apart : true ≠ false := by decide
  constructor
  · obtain ⟨past, session, expected, next, row, resumeAt, calls, called, active, waiting, time, early,
      _⟩ := @suspending_suspends 5 true (by decide +kernel)
    have timely : Timely (suspending 5).scene (.store (.updateSession session expected)) := by
      intro _ other _ _ _ _ known
      rw [time] at known
      cases known
      exact Or.inl early
    refine ⟨session, expected, ?_⟩
    intro after final stored writes steps stands
    have idle : ((suspending 5).worker true).IsIdle := by decide +kernel
    rw [← called] at stands
    exact (suspension_keeps_job_exactly (suspending_reached 5) calls active waiting apart idle
      sampleSettings).1 timely after final stored writes steps stands
  · obtain ⟨past, session, expected, next, row, resumeAt, calls, called, active, waiting, time, due,
      stands, agreed, running⟩ := @suspending_suspends 0 false (by decide +kernel)
    have untimely : ¬Timely (suspending 0).scene (.store (.updateSession session expected)) := by
      intro timely
      rw [← called] at stands
      rcases timely row resumeAt stands agreed active waiting time with ahead | waits
      · have reached : (suspending 0).scene.time.NotBefore resumeAt := due
        exact reached.not_before ahead
      · have other := waits.status
        rw [running] at other
        cases other
    have idle : ((suspending 0).worker true).IsIdle := by decide +kernel
    obtain ⟨_, begun, ready, after, stored, _, begins, alone, writes, written, lost⟩ :=
      (suspension_keeps_job_exactly (suspending_reached 0) calls active waiting apart idle
        sampleSettings).2 untimely
    rw [called] at written
    exact ⟨session, expected, ready, after, stored, .head begins.step (Alone.steps alone), writes,
      written, lost⟩

/-- A poll overtakes a suspension that is due at once: it finds the job before the session waits for
it, and marks it. -/
def overtaken : Workplace Bool :=
  (suspending 0).play sampleSettings
    (.order true .poll :: List.replicate 4 (.go true) ++ List.replicate 3 (.go false))

theorem waiting_session_without_job :
    ∃ place : Workplace Bool, Reached place ∧ ∃ session,
      place.scene.store.getSession "session-0001" = some session ∧ session.isActive = true ∧
      session.status = .awaitingTimer ∧ ¬place.scene.HasJob session := by
  have waits : (overtaken.scene.store.getSession "session-0001").any (fun session =>
      session.isActive && session.status = .awaitingTimer) = true := by decide +kernel
  have marked : ∀ entry ∈ overtaken.scene.store.delays, entry.2.processed = true := by
    decide +kernel
  obtain ⟨session, stands, waits⟩ := (Option.any_eq_true _ _).mp waits
  rw [Bool.and_eq_true] at waits
  refine ⟨overtaken, (suspending_reached 0).play _, session, stands, waits.1,
    of_decide_eq_true waits.2, ?_⟩
  rintro ⟨name, job, present, unmarked, _⟩
  have done := marked (name, job) (Table.mem_of_lookup? present)
  rw [unmarked] at done
  cases done

end Workplace

end ChatFlow

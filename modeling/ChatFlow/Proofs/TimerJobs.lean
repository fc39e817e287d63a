import ChatFlow.Proofs.Recollection
import ChatFlow.Proofs.Rehearsal
/-
No session waits for a timer in vain. Whatever a single worker does, and whatever fails on the way,
every session that waits for a timer has an unmarked timer job. With many workers the same holds as
long as every session is suspended before it is due, or is due already at the node where it stays.
-/

set_option autoImplicit false

namespace ChatFlow

open EnginePast

/-- A session waits for a timer at a node, and for none later than a given time. -/
structure Session.DueAt (session : Session) (conversation node : String) (time : Stamp) : Prop
    extends session.WaitsAt conversation node where
  time : ∀ resumeAt, session.resumeAt = some resumeAt → time.NotBefore resumeAt

theorem Delay.IsFor.dueAt {job : Delay} {session : Session} (fits : job.IsFor session)
    (active : session.isActive = true) (waiting : session.status = .awaitingTimer) :
    session.DueAt job.conversation job.node job.resumeAt where
  active := active
  status := waiting
  place := fits.place
  node := fits.node
  time resumeAt known := by
    rw [fits.time] at known
    cases known
    exact Stamp.NotBefore.refl _

/-- A session that is suspended anew at the node where it waits is due by the new time. -/
theorem EnginePast.Holds.dueAt_of_planned {past : EnginePast} {scene : Scene}
    (holds : EnginePast.Holds past scene) {found : Session} {conversation node : String}
    {resumeAt : Stamp} (planned : Planned past found resumeAt)
    (waits : found.WaitsAt conversation node) : found.DueAt conversation node resumeAt := by
  obtain ⟨now, earlier, clocked, movable, ahead⟩ := planned
  have grown : earlier <:+ past := (List.suffix_cons _ earlier).trans clocked
  refine ⟨waits, fun first known => ahead.trans ?_⟩
  cases movable with
  | made told =>
      have running := holds.made (told.grow grown)
      rw [waits.status] at running
      cases running
  | answered told waiting =>
      rw [waits.status] at waiting
      cases waiting
  | due told active waiting reached =>
      obtain ⟨shown, before_, due⟩ := reached first known
      exact (holds.ordered clocked before_).trans due

namespace Workplace

variable {ι : Type}

/-! ### Jobs that are dealt with -/

/-- A worker has found that the session of a job does not wait for it, or has written the session. -/
def Settled (past : EnginePast) (job : Delay) : Prop :=
  (∃ found : Option Session, Told past (.getSession job.session) found ∧
    ∀ row, found = some row → ¬row.DueAt job.conversation job.node job.resumeAt) ∨
  Wrote past (some job.session)

/-- Some worker has listed a job and settled it, and so may mark it. -/
def Spent (place : Workplace ι) (name : String) : Prop :=
  ∃ index job, Listed (place.worker index).past job ∧ job.id = some name ∧
    Settled (place.worker index).past job

/-- A job is unmarked, and no worker may mark it. -/
structure Clear (place : Workplace ι) (name : String) : Prop where
  unmarked : ∃ job, Table.lookup? name place.scene.store.delays = some job ∧ job.processed = false
  unspent : ¬Spent place name

/-- A session has a job that no worker may mark. -/
def Attended (place : Workplace ι) (session : Session) : Prop :=
  ∃ name job, Table.lookup? name place.scene.store.delays = some job ∧ job.IsFor session ∧
    Clear place name

/-- What may be said of the jobs while several workers go on. A job that was stored for a session is
clear until the session is written, unless it was due when another worker found that the session,
as it was read, does not wait for it. -/
structure Sound (place : Workplace ι) : Prop extends Informed place where
  dated : ∀ {index now job}, Clocked (place.worker index).past now →
    Listed (place.worker index).past job → now.NotBefore job.resumeAt
  unlisted : ∀ {index given stored job}, Told (place.worker index).past (.saveDelay given) stored →
    Listed (place.worker index).past job → stored.id ≠ job.id
  armed : ∀ {index found given stored name}, Armed (place.worker index).past found given stored →
    found.id = some given.session → stored.id = some name →
    Clear place name ∨ place.scene.store.getSession given.session ≠ some found ∨
      ((∃ other, other ≠ index) ∧ place.scene.time.NotBefore given.resumeAt ∧
        ¬found.DueAt given.conversation given.node given.resumeAt)

theorem Sound.settled {place : Workplace ι} (sound : Sound place) {index : ι} {job : Delay}
    (listed : Listed (place.worker index).past job)
    (handled : Handled (place.worker index).past job.conversation job.session job.node) :
    Settled (place.worker index).past job := by
  cases handled with
  | missing told => exact Or.inl ⟨none, told, fun row same => nomatch same⟩
  | @elsewhere found told apart =>
      refine Or.inl ⟨some found, told, ?_⟩
      intro row same due
      cases same
      rcases apart with other | ended | other | other
      · exact other due.place
      · rw [due.active] at ended
        cases ended
      · exact other due.status
      · exact other due.node
  | @early found resumeAt now told later clocked ahead =>
      refine Or.inl ⟨some found, told, ?_⟩
      intro row same due
      cases same
      have reached := sound.dated clocked listed
      exact (reached.trans (due.time resumeAt later)).not_before ahead
  | moved told wrote =>
      refine Or.inr ?_
      rw [(sound.holds index).read told] at wrote
      exact wrote

/-! ### Steps that tell nothing new -/

theorem Settled.of_fewer {later past : EnginePast} (fewer : Fewer later past) {job : Delay}
    (settled : Settled later job) : Settled past job := by
  rcases settled with ⟨found, told, apart⟩ | ⟨session, expected, stored, told, same⟩
  · exact Or.inl ⟨found, fewer.told told, apart⟩
  · exact Or.inr ⟨session, expected, stored, fewer.told told, same⟩

theorem Still.clear {before after : Workplace ι} (still : Still before after) {name : String}
    (clear : Clear before name) : Clear after name := by
  refine ⟨by rw [still.store]; exact clear.unmarked, fun spent => clear.unspent ?_⟩
  obtain ⟨index, job, listed, named, settled⟩ := spent
  have fewer := still.fewer index
  exact ⟨index, job, fewer.listed listed, named, settled.of_fewer fewer⟩

theorem Still.attended {before after : Workplace ι} (still : Still before after)
    {session : Session} (attended : Attended before session) : Attended after session := by
  obtain ⟨name, job, present, fits, clear⟩ := attended
  exact ⟨name, job, by rw [still.store]; exact present, fits, still.clear clear⟩

theorem Still.sound {before after : Workplace ι} (still : Still before after)
    (sound : Sound before) : Sound after where
  toInformed := still.informed sound.toInformed
  dated {index _ _} clocked listed :=
    sound.dated ((still.fewer index).clocked clocked) ((still.fewer index).listed listed)
  unlisted {index _ _ _} told listed :=
    sound.unlisted ((still.fewer index).told told) ((still.fewer index).listed listed)
  armed {index found given stored name} armed owner named := by
    rw [still.store]
    rcases sound.armed ((still.fewer index).armed armed) owner named with clear | gone | settled
    · exact Or.inl (still.clear clear)
    · exact Or.inr (Or.inl gone)
    · exact Or.inr (Or.inr ⟨settled.1, still.time.trans settled.2.1, settled.2.2⟩)

/-! ### What a call may do to a job -/

/-- How a job stops being clear: its session has ended, or a worker that has listed the job reads
that the session does not wait for it, or writes the session. -/
inductive Lost (past : EnginePast) (before after : Scene) (name : String) (job : Delay) : Prop where
  | ended (closed : before.store.Closed job.session)
  | idle (listed : ∃ seen, Listed past seen ∧ seen.id = some name)
      (due : before.time.NotBefore job.resumeAt)
      (apart : ∀ row, before.store.getSession job.session = some row →
        ¬row.DueAt job.conversation job.node job.resumeAt)
  | written (listed : ∃ seen, Listed past seen ∧ seen.id = some name)
      (change : ∃ found stored, before.store.getSession job.session = some found ∧
        after.store.getSession job.session = some stored ∧ found.revision < stored.revision)

variable {past : EnginePast} {before : Scene} {name : String} {job : Delay}

/-- A job that was listed is the one that is stored under its name. -/
theorem stored_of_listed (holds : EnginePast.Holds past before) {seen : Delay}
    (listed : Listed past seen) (named : seen.id = some name)
    (present : Table.lookup? name before.store.delays = some job) : seen.SameJob job := by
  obtain ⟨⟨other, row, known, stored, same⟩, _⟩ := holds.listed listed
  rw [named] at known
  cases known
  rw [present] at stored
  cases stored
  exact same

/-- An unmarked job stays so, unless its session has ended or the worker had settled it. -/
theorem unmarked_of_store (sound : Store.WellFormed before.store)
    (holds : EnginePast.Holds past before) {request : StoreCall}
    (warranted : Warranted past (.store request)) (stamp : Stamp)
    (present : Table.lookup? name before.store.delays = some job) (open_ : job.processed = false) :
    (∃ row, Table.lookup? name (before.store.answer stamp request).2.delays = some row ∧
      row.processed = false) ∨ before.store.Closed job.session ∨
    ∃ seen, Listed past seen ∧ seen.id = some name ∧
      Handled past seen.conversation seen.session seen.node := by
  let Kept (later : Store) : Prop :=
    ∃ row, Table.lookup? name later.delays = some row ∧ row.processed = false
  have start : Kept before.store := ⟨job, present, open_⟩
  cases writes : request.writesRows with
  | false =>
      have same := Store.answer_sameRows writes stamp before.store
      refine Or.inl ⟨job, ?_, open_⟩
      rw [same.delays]
      exact present
  | true =>
      cases request with
      | createSession session =>
          refine Or.inl (Store.changing_snd Kept start fun stored later done => ?_)
          exact ⟨job, by rw [(Store.createSession_ok done).delays]; exact present, open_⟩
      | updateSession session expected =>
          refine Or.inl (Store.changing_snd Kept start fun stored later done => ?_)
          exact ⟨job, by rw [(Store.updateSession_ok done).delays]; exact present, open_⟩
      | saveDelay given =>
          refine Or.inl ⟨job, ?_, open_⟩
          refine (Store.lookup?_saveDelay name given before.store).trans ?_
          rw [if_neg]
          · exact present
          · intro same
            rw [← same, sound.nextDelay_free] at present
            cases present
      | markDelay id =>
          by_cases same : id = name
          · subst same
            obtain ⟨seen, listed, called, handled⟩ := warranted
            obtain ⟨⟨other, _, known, _⟩, _⟩ := holds.listed listed
            rw [known] at called
            cases called
            exact Or.inr (Or.inr ⟨seen, listed, known, handled⟩)
          · refine Or.inl ⟨job, ?_, open_⟩
            refine (Store.lookup?_markDelay name id stamp before.store).trans ?_
            rw [if_neg same]
            exact present
      | markSessionDelays session =>
          by_cases same : some job.session = session
          · subst same
            obtain ⟨written, expected, stored, told, ended, owner⟩ := warranted
            obtain ⟨id, _, named, closed⟩ := holds.wrote told
            rw [owner] at named
            cases named
            exact Or.inr (Or.inl (closed ended))
          · refine Or.inl ⟨job, ?_, open_⟩
            refine (Store.lookup?_markSessionDelays name session stamp before.store).trans ?_
            rw [present, Option.map_some, if_neg]
            simp [Store.isWaitingFor, same]
      | _ => cases writes

/-! ### What an answer changes -/

namespace Answering

variable {before after : Workplace ι} {index : ι} {past : EnginePast} {request : Call}
  {reply : Except Fault request.Answer} {name : String} {job : Delay}

/-- A past that begins with a listing of jobs knows nothing else but the time. -/
theorem not_told_of_listing {now : Stamp} {asked : StoreCall} {answer : asked.Answer}
    (warranted : Warranted past (.store (.pendingDelays now))) : ¬Told past asked answer := by
  intro told
  have first : past = [⟨.clock, .ok now⟩] := warranted
  rw [first] at told
  cases List.mem_singleton.mp told

theorem not_settled_of_listing {now : Stamp}
    {reply : Except Fault (Call.store (.pendingDelays now)).Answer}
    (warranted : Warranted past (.store (.pendingDelays now))) :
    ¬Settled (⟨.store (.pendingDelays now), reply⟩ :: past) job := by
  rintro (⟨found, told, _⟩ | ⟨session, expected, stored, told, _⟩)
  · rcases EnginePast.Holds.told_cons told with head | tail
    · cases head
    · exact not_told_of_listing warranted tail
  · rcases EnginePast.Holds.told_cons told with head | tail
    · cases head
    · exact not_told_of_listing warranted tail

theorem unmarked (answering : Answering before after index past request reply)
    (sound : Sound before) (clear : Clear before name)
    (present : Table.lookup? name before.scene.store.delays = some job) :
    (∃ row, Table.lookup? name after.scene.store.delays = some row ∧ row.processed = false) ∨
      Lost past before.scene after.scene name job := by
  have open_ : job.processed = false := by
    obtain ⟨other, found, open_⟩ := clear.unmarked
    rw [present] at found
    cases found
    exact open_
  have holds := answering.holds sound.toInformed
  rcases answering.answers.effect with same | ⟨asked, stamp, rfl, same⟩
  · exact Or.inl ⟨job, by rw [same]; exact present, open_⟩
  · rcases unmarked_of_store sound.shape holds answering.warranted stamp present open_ with
      kept | ended | ⟨seen, listed, named, handled⟩
    · rw [same]
      exact Or.inl kept
    · exact Or.inr (.ended ended)
    · have spent : Spent before name := by
        rw [← answering.asks] at listed handled
        exact ⟨index, seen, listed, named, sound.settled listed handled⟩
      exact absurd spent clear.unspent

/-- A job that is spent after an answer was spent before, or is lost by the answer. -/
theorem lost_of_spent (answering : Answering before after index past request reply)
    (sound : Sound before) (clear : Clear before name)
    (present : Table.lookup? name before.scene.store.delays = some job)
    (spent : Spent after name) : Lost past before.scene after.scene name job := by
  have holds := answering.holds sound.toInformed
  have fresh {other : ι} {seen : Delay} (listed : Listed (before.worker other).past seen)
      (named : seen.id = some name) (settled : Settled (before.worker other).past seen) : False :=
    clear.unspent ⟨other, seen, listed, named, settled⟩
  obtain ⟨other, seen, listed, named, settled⟩ := spent
  -- only the worker that was answered can have settled the job just now
  by_cases own : other = index
  · subst own
    rw [answering.told] at listed settled
    have earlier : Listed past seen := by
      obtain ⟨now, jobs, told, member⟩ := listed
      rcases EnginePast.Holds.told_cons told with head | tail
      · cases head
        exact absurd settled (not_settled_of_listing answering.warranted)
      · exact ⟨now, jobs, tail, member⟩
    have same := stored_of_listed holds earlier named present
    have owner : job.session = seen.session := by rw [same]
    have due : before.scene.time.NotBefore job.resumeAt := by
      rw [same]
      exact (holds.listed earlier).2
    rcases settled with ⟨found, told, apart⟩ | ⟨session, expected, stored, told, written⟩
    · rcases EnginePast.Holds.told_cons told with head | tail
      · cases head
        obtain ⟨stamp, answered, _⟩ := answering.answers
        refine .idle ⟨seen, earlier, named⟩ due fun row stands fits => ?_
        rw [owner] at stands
        rw [same] at fits
        exact apart row ((Except.ok.inj answered).trans stands) fits
      · rw [← answering.asks] at earlier tail
        exact (fresh earlier named (Or.inl ⟨found, tail, apart⟩)).elim
    · rcases EnginePast.Holds.told_cons told with head | tail
      · cases head
        obtain ⟨stamp, answered, changed⟩ := answering.answers
        have updated := Store.updateSession_ok (Store.changing_ok answered.symm)
        obtain ⟨id, found, replaces⟩ := replaces_of_updated holds answering.warranted updated
        have here : id = job.session := by
          rw [owner]
          exact Option.some.inj (replaces.named.symm.trans written)
        subst here
        refine .written ⟨seen, earlier, named⟩ ⟨found, stored, replaces.current, ?_,
          replaces.higher⟩
        rw [changed]
        exact (replaces.rows job.session).trans (if_pos rfl)
      · rw [← answering.asks] at earlier tail
        exact (fresh earlier named (Or.inr ⟨session, expected, stored, tail, written⟩)).elim
  · rw [answering.others other own] at listed settled
    exact (fresh listed named settled).elim

theorem clear (answering : Answering before after index past request reply)
    (sound : Sound before) (clear : Clear before name)
    (present : Table.lookup? name before.scene.store.delays = some job) :
    Clear after name ∨ Lost past before.scene after.scene name job := by
  by_cases spent : Spent after name
  · exact Or.inr (answering.lost_of_spent sound clear present spent)
  · rcases answering.unmarked sound clear present with unmarked | lost
    · exact Or.inl ⟨unmarked, spent⟩
    · exact Or.inr lost

end Answering

/-! ### Rows that are gone -/

section Gone

variable {before after : Scene} {found : Session} {id : String}

theorem gone_of_gone (evolves : before.Evolves after) (known : before.store.Known found)
    (named : found.id = some id) (gone : before.store.getSession id ≠ some found) :
    after.store.getSession id ≠ some found := by
  intro stands
  obtain ⟨other, current, called, _, row, aged⟩ := known
  have same : other = id := Option.some.inj (called.symm.trans named)
  subst same
  obtain ⟨later, present, change⟩ := evolves.rows row
  have same : later = found := Option.some.inj (present.symm.trans stands)
  have older : found.revision < current.revision := by
    rcases aged with equal | older
    · exact absurd (equal ▸ row) gone
    · exact older
  -- revisions only rise, so a row that was written over never comes back
  rcases change with equal | ⟨_, higher⟩
  · rw [← equal, same] at older
    exact absurd older (Int.lt_irrefl _)
  · rw [same] at higher
    exact absurd (Int.lt_trans older higher) (Int.lt_irrefl _)

theorem gone_of_written (evolves : before.Evolves after) (known : before.store.Known found)
    (named : found.id = some id) {old stored : Session}
    (row : before.store.getSession id = some old) (later : after.store.getSession id = some stored)
    (higher : old.revision < stored.revision) : after.store.getSession id ≠ some found := by
  intro stands
  have same : stored = found := Option.some.inj (later.symm.trans stands)
  refine gone_of_gone evolves known named (fun equal => ?_) stands
  have first : old = found := Option.some.inj (row.symm.trans equal)
  rw [first, same] at higher
  exact absurd higher (Int.lt_irrefl _)

theorem gone_of_closed (evolves : before.Evolves after) (active : found.isActive = true)
    (closed : before.store.Closed id) : after.store.getSession id ≠ some found := by
  intro stands
  obtain ⟨row, present, ended⟩ := evolves.closed closed
  have same : row = found := Option.some.inj (present.symm.trans stands)
  rw [same, active] at ended
  cases ended

end Gone

/-! ### Every answer keeps the jobs that are needed -/

/-- A session that is suspended is not due yet, or waits already at the node where it stays. Only a
write that the revision lets through is spoken of. -/
def Timely (scene : Scene) : Call → Prop
  | .store (.updateSession session expected) => ∀ row resumeAt,
      scene.store.getSession (Store.sessionName session) = some row → row.revision = expected →
      session.isActive = true → session.status = .awaitingTimer →
      session.resumeAt = some resumeAt →
      scene.time.Before resumeAt ∨ row.WaitsAt session.conversation session.currentNode
  | _ => True

namespace Answering

variable {before after : Workplace ι} {index : ι} {past : EnginePast} {request : Call}
  {reply : Except Fault request.Answer} {name : String}

theorem dated (answering : Answering before after index past request reply) (sound : Sound before)
    {other : ι} {now : Stamp} {job : Delay} (clocked : Clocked (after.worker other).past now)
    (listed : Listed (after.worker other).past job) : now.NotBefore job.resumeAt := by
  by_cases own : other = index
  · subst own
    rw [answering.told] at clocked listed
    have holds := answering.holds sound.toInformed
    obtain ⟨asked, jobs, told, member⟩ := listed
    rcases EnginePast.Holds.told_cons told with head | tail
    · cases head
      have first : past = [⟨.clock, .ok asked⟩] := answering.warranted
      obtain ⟨stamp, answered, _⟩ := answering.answers
      have due := ((Store.mem_pendingDelays answered.symm job).mp member).2.2
      rcases List.mem_cons.mp clocked with head | tail
      · cases head
      · rw [first] at tail
        cases List.mem_singleton.mp tail
        exact due
    · rcases List.mem_cons.mp clocked with head | tail'
      · cases head
        obtain ⟨shown, _⟩ := answering.answers
        cases shown
        exact (holds.listed ⟨asked, jobs, tail, member⟩).2
      · have early : Clocked (before.worker other).past now := answering.asks ▸ tail'
        have known : Listed (before.worker other).past job :=
          answering.asks ▸ ⟨asked, jobs, tail, member⟩
        exact sound.dated early known
  · rw [answering.others other own] at clocked listed
    exact sound.dated clocked listed

/-- A job that was stored just now was not there when jobs were listed. -/
theorem next_unlisted (answering : Answering before after index past request reply)
    (sound : Sound before) {given stored : Delay}
    (head : (⟨.store (.saveDelay given), .ok stored⟩ : Program.Answered Call.Answer) =
      ⟨request, reply⟩) {other : ι} {job : Delay}
    (listed : Listed (after.worker other).past job) : stored.id ≠ job.id := by
  cases head
  obtain ⟨stamp, answered, _⟩ := answering.answers
  have same : stored = { given with id := some before.scene.store.nextDelay } :=
    Except.ok.inj answered
  have earlier : Listed (before.worker other).past job := by
    by_cases own : other = index
    · subst own
      rw [answering.told] at listed
      obtain ⟨now, jobs, told, member⟩ := listed
      rw [answering.asks]
      rcases EnginePast.Holds.told_cons told with head | tail
      · cases head
      · exact ⟨now, jobs, tail, member⟩
    · rw [answering.others other own] at listed
      exact listed
  intro equal
  obtain ⟨⟨known, row, named, present, _⟩, _⟩ := (sound.holds other).listed earlier
  rw [same, named] at equal
  cases equal
  rw [sound.shape.nextDelay_free] at present
  cases present

theorem unlisted (answering : Answering before after index past request reply)
    (sound : Sound before) {other : ι} {given stored job : Delay}
    (saved : Told (after.worker other).past (.saveDelay given) stored)
    (listed : Listed (after.worker other).past job) : stored.id ≠ job.id := by
  by_cases own : other = index
  · subst own
    rw [answering.told] at saved
    rcases EnginePast.Holds.told_cons saved with head | tail
    · exact answering.next_unlisted sound head listed
    · rw [answering.told] at listed
      obtain ⟨now, jobs, told, member⟩ := listed
      rcases EnginePast.Holds.told_cons told with head | tail'
      · cases head
        exact absurd tail (not_told_of_listing answering.warranted)
      · have early : Told (before.worker other).past (.saveDelay given) stored :=
          answering.asks ▸ tail
        have known : Listed (before.worker other).past job :=
          answering.asks ▸ ⟨now, jobs, tail', member⟩
        exact sound.unlisted early known
  · rw [answering.others other own] at saved listed
    exact sound.unlisted saved listed

end Answering

theorem Sound.saved_row {place : Workplace ι} (sound : Sound place) {index : ι} {found : Session}
    {given stored : Delay} {name : String}
    (armed : Armed (place.worker index).past found given stored) (named : stored.id = some name) :
    ∃ job, Table.lookup? name place.scene.store.delays = some job ∧ given.SameJob job := by
  obtain ⟨other, same, called, row, known, present, kept⟩ := (sound.holds index).saved armed.told
  rw [named] at known
  cases known
  have like : given.SameJob stored := by
    unfold Delay.SameJob
    rw [same]
  exact ⟨row, present, like.trans kept⟩

namespace Answering

variable {before after : Workplace ι} {index : ι} {past : EnginePast} {request : Call}
  {reply : Except Fault request.Answer} {name : String}

/-- A job that its own worker stored is not lost by what that worker does, unless its session has
ended. -/
theorem clear_of_own (answering : Answering before after index past request reply)
    (sound : Sound before) {found : Session} {given stored : Delay}
    (armed : Armed (before.worker index).past found given stored) (named : stored.id = some name)
    (clear : Clear before name) :
    Clear after name ∨ before.scene.store.Closed given.session := by
  obtain ⟨job, present, same⟩ := sound.saved_row armed named
  have owner : job.session = given.session := by rw [same]
  have foreign : ¬∃ seen, Listed past seen ∧ seen.id = some name := by
    rintro ⟨seen, listed, called⟩
    rw [← answering.asks] at listed
    exact sound.unlisted armed.told listed (named.trans called.symm)
  rcases answering.clear sound clear present with still | lost
  · exact Or.inl still
  · cases lost with
    | ended closed => exact Or.inr (owner ▸ closed)
    | idle listed => exact absurd listed foreign
    | written listed => exact absurd listed foreign

/-- A session that waits and is not written keeps its job. -/
theorem attended_of_old (answering : Answering before after index past request reply)
    (sound : Sound before) {id : String} {session : Session}
    (old : before.scene.store.getSession id = some session)
    (stands : after.scene.store.getSession id = some session) (active : session.isActive = true)
    (waiting : session.status = .awaitingTimer) (attended : Attended before session) :
    Attended after session := by
  obtain ⟨evolves, _⟩ := answering.evolves sound.toInformed
  obtain ⟨name, job, present, fits, clear⟩ := attended
  obtain ⟨later, present', same⟩ := evolves.jobs present
  have named : session.id = some id := sound.shape.sessionNamed old
  have here : job.session = id := Option.some.inj (fits.owner.symm.trans named)
  rcases answering.clear sound clear present with still | lost
  · exact ⟨name, later, present', same.isFor.mpr fits, still⟩
  · cases lost with
    | ended closed =>
        obtain ⟨row, there, ended⟩ := closed
        rw [here, old] at there
        cases there
        rw [active] at ended
        cases ended
    | idle _ _ apart =>
        rw [here] at apart
        exact absurd (fits.dueAt active waiting) (apart session old)
    | written _ change =>
        obtain ⟨first, second, row, row', higher⟩ := change
        rw [here, old] at row
        rw [here, stands] at row'
        cases row
        cases row'
        exact absurd higher (Int.lt_irrefl _)

/-- A session that is written so that it waits has a job, where there is one worker or the session
is suspended in time. -/
theorem attended_of_new {written session found : Session} {expected : Int}
    {reply : Except Fault (Call.store (.updateSession written expected)).Answer}
    (answering :
      Answering before after index past (.store (.updateSession written expected)) reply)
    (sound : Sound before) {id : String} {stamp : Stamp}
    (replaces : Replaces past before.scene.store id found written expected stamp session
      after.scene.store)
    (prompt : (∀ other, other = index) ∨
      Timely before.scene (.store (.updateSession written expected)))
    (active : session.isActive = true) (waiting : session.status = .awaitingTimer) :
    Attended after session := by
  obtain ⟨evolves, _⟩ := answering.evolves sound.toInformed
  have holds := answering.holds sound.toInformed
  have row := replaces.updated.row
  have writtenActive : written.isActive = true := by rw [row] at active; exact active
  have writtenWaiting : written.status = .awaitingTimer := by rw [row] at waiting; exact waiting
  obtain ⟨given, stored, armed, fits, planned⟩ :=
    replaces.rewrites.armed writtenActive writtenWaiting
  rw [← answering.asks] at armed
  have fitting : given.IsFor session := by
    rw [row]
    exact ⟨fits.owner, fits.place, fits.node, fits.time⟩
  obtain ⟨name, same, _⟩ := (sound.holds index).saved armed.told
  have named : stored.id = some name := by rw [same]
  have owned : found.id = some given.session := replaces.rewrites.id ▸ fits.owner
  have here : id = given.session := Option.some.inj (replaces.named.symm.trans fits.owner)
  have current : before.scene.store.getSession given.session = some found :=
    here ▸ replaces.current
  -- the job can have been spent by another worker only while it was due and the session idle
  have clear : Clear before name := by
    rcases sound.armed armed owned named with clear | gone | ⟨⟨other, apart⟩, due, idle⟩
    · exact clear
    · exact absurd current gone
    · rcases prompt with alone | timely
      · exact absurd (alone other) apart
      · have called : Store.sessionName written = id := Store.sessionName_of_id replaces.named
        rcases timely found given.resumeAt (called ▸ replaces.current)
            replaces.rewrites.revision.symm writtenActive writtenWaiting fits.time with
          ahead | waits
        · exact absurd ahead due.not_before
        · rw [fits.place, fits.node] at waits
          exact absurd (holds.dueAt_of_planned planned waits) idle
  rcases answering.clear_of_own sound armed named clear with still | closed
  · obtain ⟨job, present, like⟩ := sound.saved_row armed named
    obtain ⟨later, present', marked⟩ := evolves.jobs present
    exact ⟨name, later, present', (like.trans marked).isFor.mpr fitting, still⟩
  · obtain ⟨row, there, ended⟩ := closed
    rw [current] at there
    cases there
    rw [replaces.active] at ended
    cases ended

theorem clear_of_saved (answering : Answering before after index past request reply)
    (sound : Sound before) {given stored : Delay}
    (head : (⟨.store (.saveDelay given), .ok stored⟩ : Program.Answered Call.Answer) =
      ⟨request, reply⟩) (named : stored.id = some name) : Clear after name := by
  constructor
  case unmarked =>
    cases head
    obtain ⟨stamp, answered, changed⟩ := answering.answers
    have same : stored = { given with id := some before.scene.store.nextDelay } :=
      Except.ok.inj answered
    rw [same] at named
    cases named
    refine ⟨stored, ?_, ?_⟩
    · rw [changed, same]
      exact (Store.lookup?_saveDelay _ given before.scene.store).trans (if_pos rfl)
    · rw [same]
      exact answering.warranted.1
  case unspent =>
    rintro ⟨other, job, listed, called, _⟩
    exact answering.next_unlisted sound head listed (named.trans called.symm)

theorem armed (answering : Answering before after index past request reply) (sound : Sound before)
    {other : ι} {found : Session} {given stored : Delay}
    (armed : Armed (after.worker other).past found given stored)
    (owned : found.id = some given.session) (named : stored.id = some name) :
    Clear after name ∨ after.scene.store.getSession given.session ≠ some found ∨
      ((∃ another, another ≠ other) ∧ after.scene.time.NotBefore given.resumeAt ∧
        ¬found.DueAt given.conversation given.node given.resumeAt) := by
  obtain ⟨evolves, _⟩ := answering.evolves sound.toInformed
  have kept (known : Armed (before.worker other).past found given stored) :
      Clear after name ∨ after.scene.store.getSession given.session ≠ some found ∨
        ((∃ another, another ≠ other) ∧ after.scene.time.NotBefore given.resumeAt ∧
          ¬found.DueAt given.conversation given.node given.resumeAt) := by
    have seen := (sound.holds other).saw known.saw
    have active : found.isActive = true := by
      obtain ⟨_, _, _, active, _⟩ := seen
      exact active
    rcases sound.armed known owned named with clear | gone | ⟨another, due, idle⟩
    · by_cases own : other = index
      · subst own
        rcases answering.clear_of_own sound known named clear with still | closed
        · exact Or.inl still
        · exact Or.inr (Or.inl (gone_of_closed evolves active closed))
      · obtain ⟨job, present, same⟩ := sound.saved_row known named
        have owner : job.session = given.session := by rw [same]
        rcases answering.clear sound clear present with still | lost
        · exact Or.inl still
        · cases lost with
          | ended closed => exact Or.inr (Or.inl (gone_of_closed evolves active (owner ▸ closed)))
          | idle _ due apart =>
              rw [same] at due apart
              by_cases stands : before.scene.store.getSession given.session = some found
              · exact Or.inr (Or.inr ⟨⟨index, fun equal => own equal.symm⟩,
                  evolves.time.trans due, apart found stands⟩)
              · exact Or.inr (Or.inl (gone_of_gone evolves seen owned stands))
          | written _ change =>
              obtain ⟨first, second, row, later, higher⟩ := change
              rw [owner] at row later
              exact Or.inr (Or.inl (gone_of_written evolves seen owned row later higher))
    · exact Or.inr (Or.inl (gone_of_gone evolves seen owned gone))
    · exact Or.inr (Or.inr ⟨another, evolves.time.trans due, idle⟩)
  -- either the answer is that very job, or the job was stored before
  by_cases own : other = index
  · subst own
    obtain ⟨earlier, saved, saw⟩ := armed
    rw [answering.told] at saved
    rcases List.suffix_cons_iff.mp saved with head | tail
    · exact Or.inl (answering.clear_of_saved sound (List.cons.inj head).1 named)
    · refine kept ⟨earlier, ?_, saw⟩
      rw [answering.asks]
      exact tail
  · rw [answering.others other own] at armed
    exact kept armed

end Answering

/-! ### Every step keeps the jobs that are needed -/

theorem Answering.sound {before after : Workplace ι} {index : ι} {past : EnginePast}
    {request : Call} {reply : Except Fault request.Answer}
    (answering : Answering before after index past request reply) (sound : Sound before) :
    Sound after where
  toInformed := answering.informed sound.toInformed
  dated clocked listed := answering.dated sound clocked listed
  unlisted saved listed := answering.unlisted sound saved listed
  armed armed owned named := answering.armed sound armed owned named

theorem Reached.sound {place : Workplace ι} (reached : Reached place) : Sound place := by
  induction reached with
  | start time =>
      exact {
        toInformed := (Reached.start time).informed
        dated := fun clocked => nomatch clocked
        unlisted := fun saved => nomatch saved
        armed := fun armed => by
          have told := armed.told
          cases told }
  | step reached step sound =>
      rcases step.cases reached.mannered with still | ⟨index, past, request, reply, answering⟩
      · exact still.sound sound
      · exact answering.sound sound

/-- A session that waits and is not written in a step keeps its job. -/
theorem Step.attended {before after : Workplace ι} (step : Step before after)
    (mannered : Mannered before) (sound : Sound before) {id : String} {session : Session}
    (old : before.scene.store.getSession id = some session)
    (stands : after.scene.store.getSession id = some session) (active : session.isActive = true)
    (waiting : session.status = .awaitingTimer) (attended : Attended before session) :
    Attended after session := by
  rcases step.cases mannered with still | ⟨index, past, request, reply, answering⟩
  · exact still.attended attended
  · exact answering.attended_of_old sound old stands active waiting attended

/-- What it means for a session to be attended, in terms of what is stored. -/
theorem Sound.job_of_attended {place : Workplace ι} (sound : Sound place) {id : String}
    {session : Session} (stands : place.scene.store.getSession id = some session)
    (attended : Attended place session) :
    ∃ name job, Table.lookup? name place.scene.store.delays = some job ∧
      job.processed = false ∧ session.id = some id ∧ job.session = id ∧
      job.conversation = session.conversation ∧ job.node = session.currentNode ∧
      session.resumeAt = some job.resumeAt := by
  obtain ⟨name, job, present, fits, clear⟩ := attended
  obtain ⟨row, found, unmarked⟩ := clear.unmarked
  rw [present] at found
  cases found
  have named : session.id = some id := sound.shape.sessionNamed stands
  have owner : job.session = id := Option.some.inj (fits.owner.symm.trans named)
  exact ⟨name, job, present, unmarked, named, owner, fits.place.symm, fits.node.symm, fits.time⟩

/-! ### One worker -/

theorem attended_of_alone {place : Workplace Unit} (reached : Reached place) {id : String}
    {session : Session} (stands : place.scene.store.getSession id = some session)
    (active : session.isActive = true) (waiting : session.status = .awaitingTimer) :
    Attended place session := by
  induction reached with
  | start time => cases stands
  | step reached step ih =>
      rcases step.cases reached.mannered with still | ⟨index, past, request, reply, answering⟩
      · rw [still.store] at stands
        exact still.attended (ih stands)
      · have sound := reached.sound
        rcases answering.row_after sound.toInformed stands with
          old | ⟨_, new⟩ | ⟨written, expected, found, stamp, rfl, replaces⟩
        · exact answering.attended_of_old sound old stands active waiting (ih old)
        · rw [waiting] at new
          cases new
        · exact answering.attended_of_new sound replaces (Or.inl fun _ => rfl) active waiting

/-- Whatever events follow one another, and whatever calls the store refuses on the way, a session
that waits for a timer has an unmarked job for its node and time. -/
theorem waiting_session_has_job {place : Workplace Unit} (reached : Reached place)
    {id : String} {session : Session}
    (stands : place.scene.store.getSession id = some session) (active : session.isActive = true)
    (waiting : session.status = .awaitingTimer) :
    ∃ name job, Table.lookup? name place.scene.store.delays = some job ∧
      job.processed = false ∧ session.id = some id ∧ job.session = id ∧
      job.conversation = session.conversation ∧ job.node = session.currentNode ∧
      session.resumeAt = some job.resumeAt :=
  reached.sound.job_of_attended stands (attended_of_alone reached stands active waiting)

/-- A flow is started; the store refuses to suspend its session, so that the event starts over and
leaves a stray job behind. -/
def restarted : Workplace Unit :=
  (emptyPlace Unit).play sampleSettings
    (openingCues () 5 ++ List.replicate 8 (.go ()) ++
      [.refuse () (.conflict (.sessionRevision "session-0001" 0))] ++ List.replicate 20 (.go ()))

theorem restarted_reached : Reached restarted :=
  Reached.play (.start default) _

theorem waiting_session_has_job_restarted :
    Reached restarted ∧
    ∃ session, restarted.scene.store.getSession "session-0002" = some session ∧
      session.isActive = true ∧ session.status = .awaitingTimer ∧
      ∃ name job, Table.lookup? name restarted.scene.store.delays = some job ∧
        job.processed = false ∧ job.session = "session-0002" ∧ job.node = "pause" := by
  have stands : ∃ session, restarted.scene.store.getSession "session-0002" = some session ∧
      session.isActive = true ∧ session.status = .awaitingTimer ∧
      session.currentNode = "pause" := ⟨_, rfl, by decide +kernel⟩
  obtain ⟨session, stands, active, waiting, node⟩ := stands
  obtain ⟨name, job, present, unmarked, _, owner, _, place, _⟩ :=
    waiting_session_has_job restarted_reached stands active waiting
  exact ⟨restarted_reached, session, stands, active, waiting, name, job, present, unmarked, owner,
    place.trans node⟩

end Workplace

end ChatFlow

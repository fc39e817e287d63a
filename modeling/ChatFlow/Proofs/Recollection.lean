import ChatFlow.Proofs.Workers
/-
What a worker has been told stays true in the sense in which it relies on it. A session that was
read active is still stored, as it was read or with a higher revision; a session that was ended
stays so; a timer job keeps everything but its mark, and stays due once it is.
-/

set_option autoImplicit false

namespace ChatFlow

open EnginePast

/-! ### How a scene changes -/

/-- One timer job is another one, up to its identifier and to whether and when it was marked. -/
def Delay.SameJob (job row : Delay) : Prop :=
  row = { job with id := row.id, processed := row.processed, processedAt := row.processedAt }

theorem Delay.SameJob.refl (job : Delay) : job.SameJob job := rfl

theorem Delay.SameJob.trans {first middle last : Delay} (lower : first.SameJob middle)
    (upper : middle.SameJob last) : first.SameJob last := by
  unfold Delay.SameJob at *
  rw [upper, lower]

theorem Delay.SameJob.isFor {job row : Delay} (same : job.SameJob row) {session : Session} :
    row.IsFor session ↔ job.IsFor session := by
  unfold Delay.SameJob at same
  rw [same]
  exact ⟨fun fits => ⟨fits.owner, fits.place, fits.node, fits.time⟩,
    fun fits => ⟨fits.owner, fits.place, fits.node, fits.time⟩⟩

/-- Time does not run backwards, active sessions are written over with higher revisions only, and
timer jobs change nothing but their marks. -/
structure Scene.Evolves (before after : Scene) : Prop where
  time : after.time.NotBefore before.time
  rows : ∀ {id row}, before.store.getSession id = some row →
    ∃ later, after.store.getSession id = some later ∧
      (later = row ∨ row.isActive = true ∧ row.revision < later.revision)
  jobs : ∀ {name job}, Table.lookup? name before.store.delays = some job →
    ∃ later, Table.lookup? name after.store.delays = some later ∧ job.SameJob later

theorem Scene.Evolves.refl (scene : Scene) : scene.Evolves scene where
  time := Stamp.NotBefore.refl scene.time
  rows found := ⟨_, found, Or.inl rfl⟩
  jobs found := ⟨_, found, .refl _⟩

theorem Scene.Evolves.trans {first middle last : Scene} (lower : first.Evolves middle)
    (upper : middle.Evolves last) : first.Evolves last where
  time := upper.time.trans lower.time
  rows found := by
    obtain ⟨between, present, change⟩ := lower.rows found
    obtain ⟨later, present', change'⟩ := upper.rows present
    refine ⟨later, present', ?_⟩
    rcases change with rfl | ⟨active, higher⟩
    · exact change'
    · rcases change' with rfl | ⟨_, higher'⟩
      · exact Or.inr ⟨active, higher⟩
      · exact Or.inr ⟨active, Int.lt_trans higher higher'⟩
  jobs found := by
    obtain ⟨between, present, same⟩ := lower.jobs found
    obtain ⟨later, present', same'⟩ := upper.jobs present
    exact ⟨later, present', same.trans same'⟩

/-! ### Lasting facts -/

namespace Store

/-- A session was stored and active, and has been written over since or is stored still. -/
def Known (store : Store) (found : Session) : Prop :=
  ∃ id current, found.id = some id ∧ found.isActive = true ∧
    store.getSession id = some current ∧ (current = found ∨ found.revision < current.revision)

/-- A session is stored and has ended. -/
def Closed (store : Store) (id : String) : Prop :=
  ∃ row, store.getSession id = some row ∧ row.isActive = false

/-- A timer job is stored, marked or not. -/
def Keeps (store : Store) (job : Delay) : Prop :=
  ∃ name row, job.id = some name ∧ Table.lookup? name store.delays = some row ∧ job.SameJob row

theorem known_of_row {store : Store} (sound : WellFormed store) {id : String} {found : Session}
    (row : store.getSession id = some found) (active : found.isActive = true) : store.Known found :=
  ⟨id, found, sound.sessionNamed row, active, row, Or.inl rfl⟩

end Store

namespace Scene.Evolves

variable {before after : Scene}

theorem known (evolves : before.Evolves after) {found : Session}
    (known : before.store.Known found) : after.store.Known found := by
  obtain ⟨id, current, named, active, stored, aged⟩ := known
  obtain ⟨later, present, change⟩ := evolves.rows stored
  refine ⟨id, later, named, active, present, ?_⟩
  rcases change with same | ⟨_, higher⟩
  · rw [same]
    exact aged
  · rcases aged with same | older
    · rw [same] at higher
      exact Or.inr higher
    · exact Or.inr (Int.lt_trans older higher)

theorem closed (evolves : before.Evolves after) {id : String} (closed : before.store.Closed id) :
    after.store.Closed id := by
  obtain ⟨row, stored, ended⟩ := closed
  obtain ⟨later, present, change⟩ := evolves.rows stored
  rcases change with same | ⟨active, _⟩
  · exact ⟨later, present, same ▸ ended⟩
  · rw [ended] at active
    cases active

theorem keeps (evolves : before.Evolves after) {job : Delay} (kept : before.store.Keeps job) :
    after.store.Keeps job := by
  obtain ⟨name, row, named, stored, same⟩ := kept
  obtain ⟨later, present, marked⟩ := evolves.jobs stored
  exact ⟨name, later, named, present, same.trans marked⟩

end Scene.Evolves

/-! ### What the past tells of the scene -/

/-- What a worker was told holds of the scene. -/
structure EnginePast.Holds (past : EnginePast) (scene : Scene) : Prop where
  clocked : ∀ {now}, Clocked past now → scene.time.NotBefore now
  ordered : ∀ {now first earlier}, ⟨.clock, .ok now⟩ :: earlier <:+ past →
    Clocked earlier first → now.NotBefore first
  read : ∀ {id found}, Told past (.getSession id) (some found) → found.id = some id
  made : ∀ {given found}, Told past (.createSession given) found → found.status = .running
  saw : ∀ {found}, Saw past found → scene.store.Known found
  wrote : ∀ {session expected stored}, Told past (.updateSession session expected) stored →
    ∃ id, session.id = some id ∧ stored.id = some id ∧
      (session.isActive = false → scene.store.Closed id)
  saved : ∀ {given stored}, Told past (.saveDelay given) stored →
    ∃ name, stored = { given with id := some name } ∧ scene.store.Keeps stored
  listed : ∀ {job}, Listed past job →
    scene.store.Keeps job ∧ scene.time.NotBefore job.resumeAt

namespace EnginePast.Holds

variable {past : EnginePast} {before after : Scene}

theorem nothing (scene : Scene) : EnginePast.Holds [] scene where
  clocked clocked := by cases clocked
  ordered clocked := by cases List.suffix_nil.mp clocked
  read told := by cases told
  made told := by cases told
  saw saw := by cases saw with | _ told => cases told
  wrote told := by cases told
  saved told := by cases told
  listed listed := by
    obtain ⟨now, jobs, told, _⟩ := listed
    cases told

theorem evolve (holds : EnginePast.Holds past before) (evolves : before.Evolves after) :
    EnginePast.Holds past after where
  clocked clocked := evolves.time.trans (holds.clocked clocked)
  ordered clocked := holds.ordered clocked
  read told := holds.read told
  made told := holds.made told
  saw saw := evolves.known (holds.saw saw)
  wrote told := by
    obtain ⟨id, named, same, ended⟩ := holds.wrote told
    exact ⟨id, named, same, fun inactive => evolves.closed (ended inactive)⟩
  saved told := by
    obtain ⟨name, row, kept⟩ := holds.saved told
    exact ⟨name, row, evolves.keeps kept⟩
  listed listed := by
    obtain ⟨kept, due⟩ := holds.listed listed
    exact ⟨evolves.keeps kept, evolves.time.trans due⟩

end EnginePast.Holds

/-! ### Warranted writes -/

/-- A warranted write that succeeded stands in place of the very row that was read. -/
structure Replaces (past : EnginePast) (store : Store) (id : String) (found session : Session)
    (expected : Int) (stamp : Stamp) (stored : Session) (later : Store) : Prop where
  rewrites : Rewrites past found session expected
  updated : Store.Updated store session expected stamp stored later
  named : session.id = some id
  current : store.getSession id = some found
  active : found.isActive = true

theorem replaces_of_updated {past : EnginePast} {scene : Scene}
    (holds : EnginePast.Holds past scene) {session stored : Session} {expected : Int}
    {stamp : Stamp} {later : Store} (warranted : Warranted past (.store (.updateSession session expected)))
    (updated : Store.Updated scene.store session expected stamp stored later) :
    ∃ id found, Replaces past scene.store id found session expected stamp stored later := by
  obtain ⟨found, rewrites⟩ := warranted
  obtain ⟨id, current, named, active, row, aged⟩ := holds.saw rewrites.saw
  have name : session.id = some id := rewrites.id.trans named
  obtain ⟨present, stands, agreed⟩ := updated.found
  have called : Store.sessionName session = id := Store.sessionName_of_id name
  rw [called, row] at stands
  cases stands
  -- had the row been written since it was read, its revision would not be the expected one
  refine ⟨id, found, rewrites, updated, name, ?_, active⟩
  rcases aged with same | older
  · rw [← same]
    exact row
  · rw [agreed, rewrites.revision] at older
    exact absurd older (Int.lt_irrefl _)

namespace Replaces

variable {past : EnginePast} {store later : Store} {id : String} {found session stored : Session}
  {expected : Int} {stamp : Stamp}

theorem rows (replaces : Replaces past store id found session expected stamp stored later)
    (other : String) :
    later.getSession other = if id = other then some stored else store.getSession other := by
  have called : Store.sessionName session = id := Store.sessionName_of_id replaces.named
  rw [replaces.updated.rows, called]

theorem higher (replaces : Replaces past store id found session expected stamp stored later) :
    found.revision < stored.revision := by
  rw [replaces.updated.row, ← replaces.rewrites.revision]
  exact Int.lt_succ _

theorem keepsPlace (replaces : Replaces past store id found session expected stamp stored later) :
    Store.KeepsPlace store (.updateSession session expected) := by
  intro current present
  have called : Store.sessionName session = id := Store.sessionName_of_id replaces.named
  rw [called, replaces.current] at present
  cases present
  exact replaces.rewrites.place.symm

end Replaces

/-! ### Every warranted call keeps what was told -/

namespace Scene

variable {past : EnginePast} {before : Scene}

theorem evolves_of_sameRows {later : Store} (same : Store.SameRows before.store later) :
    before.Evolves { before with store := later } where
  time := Stamp.NotBefore.refl before.time
  rows found := ⟨_, (same.getSession _).trans found, Or.inl rfl⟩
  jobs found := ⟨_, by rw [same.delays]; exact found, .refl _⟩

/-- Timer jobs that change their marks, while new ones may come, have evolved. -/
theorem evolves_of_delays {later : Store} (sessions : later.sessions = before.store.sessions)
    (jobs : ∀ {name job}, Table.lookup? name before.store.delays = some job →
      ∃ row, Table.lookup? name later.delays = some row ∧ job.SameJob row) :
    before.Evolves { before with store := later } where
  time := Stamp.NotBefore.refl before.time
  rows {id row} found := by
    refine ⟨row, ?_, Or.inl rfl⟩
    unfold Store.getSession at found ⊢
    rw [sessions]
    exact found
  jobs := jobs

theorem evolves_of_created (sound : Store.WellFormed before.store) {session stored : Session}
    {later : Store} (made : Store.Created before.store session stored later) :
    before.Evolves { before with store := later } where
  time := Stamp.NotBefore.refl before.time
  rows {id row} found := by
    refine ⟨row, ?_, Or.inl rfl⟩
    rw [made.rows, if_neg]
    · exact found
    · intro same
      rw [← same, sound.nextSession_free] at found
      cases found
  jobs found := ⟨_, by rw [made.delays]; exact found, .refl _⟩

theorem evolves_of_replaces {id : String} {found session stored : Session} {expected : Int}
    {stamp : Stamp} {later : Store}
    (replaces : Replaces past before.store id found session expected stamp stored later) :
    before.Evolves { before with store := later } where
  time := Stamp.NotBefore.refl before.time
  rows {other row} present := by
    by_cases same : id = other
    · subst same
      rw [replaces.current] at present
      cases present
      exact ⟨stored, by rw [replaces.rows, if_pos rfl], Or.inr ⟨replaces.active, replaces.higher⟩⟩
    · exact ⟨row, by rw [replaces.rows, if_neg same]; exact present, Or.inl rfl⟩
  jobs present := ⟨_, by rw [replaces.updated.delays]; exact present, .refl _⟩

theorem evolves_saveDelay (sound : Store.WellFormed before.store) (given : Delay) :
    before.Evolves { before with store := (before.store.saveDelay given).2 } := by
  refine evolves_of_delays rfl fun {name job} found => ⟨job, ?_, .refl job⟩
  rw [Store.lookup?_saveDelay, if_neg]
  · exact found
  · intro same
    rw [← same, sound.nextDelay_free] at found
    cases found

theorem evolves_markDelay (id : String) (stamp : Stamp) :
    before.Evolves { before with store := (before.store.markDelay id stamp).2 } := by
  refine evolves_of_delays (Store.markDelay_sessions id stamp before.store)
    fun {name job} found => ?_
  rw [Store.lookup?_markDelay, found]
  split
  · refine ⟨_, rfl, ?_⟩
    dsimp only
    split <;> rfl
  · exact ⟨job, rfl, .refl job⟩

theorem evolves_markSessionDelays (session : Option String) (stamp : Stamp) :
    before.Evolves { before with store := (before.store.markSessionDelays session stamp).2 } := by
  refine evolves_of_delays rfl fun {name job} found => ?_
  rw [Store.lookup?_markSessionDelays, found]
  refine ⟨_, rfl, ?_⟩
  dsimp only
  split <;> rfl

/-- A warranted call of the store makes the scene evolve, and keeps the shape of the store. -/
theorem evolves_of_store (sound : Store.WellFormed before.store)
    (holds : EnginePast.Holds past before) {request : StoreCall}
    (warranted : Warranted past (.store request)) (stamp : Stamp) :
    before.Evolves { before with store := (before.store.answer stamp request).2 } ∧
      Store.WellFormed (before.store.answer stamp request).2 := by
  let Kept (later : Store) : Prop :=
    before.Evolves { before with store := later } ∧ Store.WellFormed later
  have start : Kept before.store := ⟨.refl before, sound⟩
  cases writes : request.writesRows with
  | false =>
      have same := Store.answer_sameRows writes stamp before.store
      exact ⟨evolves_of_sameRows same, sound.of_sameRows same⟩
  | true =>
      cases request with
      | createSession session =>
          refine Store.changing_snd Kept start fun stored later done => ?_
          have made := Store.createSession_ok done
          exact ⟨evolves_of_created sound made, sound.created made⟩
      | updateSession session expected =>
          refine Store.changing_snd Kept start fun stored later done => ?_
          have updated := Store.updateSession_ok done
          obtain ⟨id, found, replaces⟩ := replaces_of_updated holds warranted updated
          exact ⟨evolves_of_replaces replaces, sound.updated updated replaces.keepsPlace⟩
      | saveDelay given => exact ⟨evolves_saveDelay sound given, sound.saveDelay given⟩
      | markDelay id => exact ⟨evolves_markDelay id stamp, sound.markDelay id stamp⟩
      | markSessionDelays session =>
          exact ⟨evolves_markSessionDelays session stamp, sound.markSessionDelays session stamp⟩
      | _ => cases writes

/-- A session that stands after a warranted call stood before, or is new, or was written by the
call. -/
theorem row_of_store (sound : Store.WellFormed before.store) (holds : EnginePast.Holds past before) {request : StoreCall}
    (warranted : Warranted past (.store request)) (stamp : Stamp) {id : String} {session : Session}
    (stands : (before.store.answer stamp request).2.getSession id = some session) :
    before.store.getSession id = some session ∨
      (before.store.getSession id = none ∧ session.status = .running) ∨
      ∃ written expected found, request = .updateSession written expected ∧
        Replaces past before.store id found written expected stamp session
          (before.store.answer stamp request).2 := by
  cases writes : request.writesRows with
  | false =>
      rw [(Store.answer_sameRows writes stamp before.store).getSession] at stands
      exact Or.inl stands
  | true =>
      cases request with
      | createSession given =>
          let Kept (later : Store) : Prop := later.getSession id = some session →
            before.store.getSession id = some session ∨
              (before.store.getSession id = none ∧ session.status = .running)
          have kept : Kept (before.store.answer stamp (.createSession given)).2 := by
            refine Store.changing_snd Kept Or.inl fun stored later done row => ?_
            have made := Store.createSession_ok done
            rw [made.rows] at row
            split at row
            · next same =>
                cases row
                rw [made.row]
                exact Or.inr ⟨same ▸ sound.nextSession_free, warranted.2.1⟩
            · exact Or.inl row
          exact (kept stands).imp_right Or.inl
      | updateSession written expected =>
          let Kept (later : Store) : Prop := later.getSession id = some session →
            before.store.getSession id = some session ∨
              ∃ found, Replaces past before.store id found written expected stamp session later
          have kept : Kept (before.store.answer stamp (.updateSession written expected)).2 := by
            refine Store.changing_snd Kept Or.inl fun stored later done row => ?_
            obtain ⟨own, found, replaces⟩ :=
              replaces_of_updated holds warranted (Store.updateSession_ok done)
            rw [replaces.rows] at row
            split at row
            · next same =>
                cases row
                exact Or.inr ⟨found, same ▸ replaces⟩
            · exact Or.inl row
          rcases kept stands with old | ⟨found, replaces⟩
          · exact Or.inl old
          · exact Or.inr (Or.inr ⟨written, expected, found, rfl, replaces⟩)
      | markDelay name =>
          have sessions := Store.markDelay_sessions name stamp before.store
          refine Or.inl ?_
          unfold Store.getSession at stands ⊢
          rw [← sessions]
          exact stands
      | saveDelay | markSessionDelays => exact Or.inl stands
      | _ => cases writes

theorem evolves_of_answers (sound : Store.WellFormed before.store)
    (holds : EnginePast.Holds past before) {request : Call} (warranted : Warranted past request)
    {reply : Except Fault request.Answer} {after : Scene}
    (answers : before.Answers request reply after) :
    before.Evolves after ∧ Store.WellFormed after.store := by
  rcases answers.effect with rfl | ⟨asked, stamp, rfl, rfl⟩
  · exact ⟨.refl _, sound⟩
  · exact evolves_of_store sound holds warranted stamp

end Scene

/-! ### Every reply is kept in mind -/

/-- The jobs that are listed are stored, unmarked and due. -/
theorem Store.mem_pendingDelays {store : Store} {now : Stamp} {jobs : List Delay}
    (listed : store.pendingDelays now = .ok jobs) (job : Delay) :
    job ∈ jobs ↔ (∃ name, (name, job) ∈ store.delays) ∧ job.processed = false ∧
      now.NotBefore job.resumeAt := by
  unfold pendingDelays at listed
  dsimp only at listed
  split at listed
  · next comparable =>
      unfold sortByStamp at listed
      split at listed
      · cases listed
        rw [List.mem_mergeSort, List.mem_filter, List.mem_filter]
        have compares (pending : job ∈ store.delays.map Prod.snd) (open_ : job.processed = false) :
            noLater job.resumeAt now = true ↔ now.NotBefore job.resumeAt := by
          have waiting : job.resumeAt ∈
              ((store.delays.map Prod.snd).filter fun delay => !delay.processed).map
                Delay.resumeAt :=
            List.mem_map_of_mem (List.mem_filter.mpr ⟨pending, by rw [open_]; rfl⟩)
          have kinds : now.offset.isSome = job.resumeAt.offset.isSome := by
            unfold areComparable at comparable
            rw [Bool.or_eq_true, List.all_eq_true, List.all_eq_true] at comparable
            rcases comparable with some_ | none_
            · rw [some_ now List.mem_cons_self, some_ _ (List.mem_cons_of_mem _ waiting)]
            · have first := none_ now List.mem_cons_self
              have other := none_ _ (List.mem_cons_of_mem _ waiting)
              simp_all
          unfold noLater Stamp.NotBefore
          rw [Stamp.before?_eq, if_pos kinds]
          cases decide (now.position < job.resumeAt.position) <;> simp
        have member : job ∈ store.delays.map Prod.snd ↔ ∃ name, (name, job) ∈ store.delays := by
          simp
        rw [← member]
        constructor
        · rintro ⟨⟨pending, unmarked⟩, due⟩
          have open_ : job.processed = false := by simpa using unmarked
          exact ⟨pending, open_, (compares pending open_).mp due⟩
        · rintro ⟨pending, open_, due⟩
          exact ⟨⟨pending, by rw [open_]; rfl⟩, (compares pending open_).mpr due⟩
      · cases listed
  · cases listed

theorem Store.changing_ok {α : Type} {store : Store} {result : Except Fault (α × Store)} {value : α}
    (done : (changing store result).1 = .ok value) :
    result = .ok (value, (changing store result).2) := by
  cases result with
  | error fault => cases done
  | ok pair =>
      cases done
      rfl

namespace EnginePast.Holds

variable {past : EnginePast} {before after : Scene} {request : Call}
  {reply : Except Fault request.Answer}

theorem told_cons {asked : StoreCall} {answer : asked.Answer}
    (told : Told (⟨request, reply⟩ :: past) asked answer) :
    (⟨.store asked, .ok answer⟩ : Program.Answered Call.Answer) = ⟨request, reply⟩ ∨
      Told past asked answer :=
  List.mem_cons.mp told

theorem saw_answered (sound : Store.WellFormed before.store) (warranted : Warranted past request)
    (answers : before.Answers request reply after) {found : Session}
    (saw : Saw (⟨request, reply⟩ :: past) found) : Saw past found ∨ after.store.Known found := by
  cases saw with
  | owner told =>
      rcases told_cons told with head | tail
      · cases head
        obtain ⟨stamp, told, rfl⟩ := answers
        have answered := Except.ok.inj told
        obtain ⟨⟨id, row⟩, active, _⟩ := (sound.activeSession_iff _ found).mp answered.symm
        exact Or.inr (Store.known_of_row sound row active)
      · exact Or.inl (.owner tail)
  | row told active =>
      rcases told_cons told with head | tail
      · cases head
        obtain ⟨stamp, told, rfl⟩ := answers
        have answered := Except.ok.inj told
        exact Or.inr (Store.known_of_row sound answered.symm active)
      · exact Or.inl (.row tail active)
  | @made given _ told =>
      rcases told_cons told with head | tail
      · cases head
        obtain ⟨stamp, told, rfl⟩ := answers
        have made := Store.createSession_ok (Store.changing_ok told.symm)
        have row : (before.store.answer stamp (.createSession given)).2.getSession
            before.store.nextSession = some found :=
          (made.rows _).trans (if_pos rfl)
        have active : found.isActive = true := by
          rw [made.row]
          exact warranted.1
        exact Or.inr (Store.known_of_row (sound.created made) row active)
      · exact Or.inl (.made tail)

theorem wrote_answered (holds : EnginePast.Holds past before) {session stored : Session}
    {expected : Int} (warranted : Warranted past (.store (.updateSession session expected)))
    (answers : before.Answers (.store (.updateSession session expected)) (.ok stored) after) :
    ∃ id, session.id = some id ∧ stored.id = some id ∧
      (session.isActive = false → after.store.Closed id) := by
  obtain ⟨stamp, told, rfl⟩ := answers
  have updated := Store.updateSession_ok (Store.changing_ok told.symm)
  obtain ⟨id, found, replaces⟩ := replaces_of_updated holds warranted updated
  have named : stored.id = some id := by
    rw [updated.row]
    exact replaces.named
  refine ⟨id, replaces.named, named, fun ended => ⟨stored, ?_, ?_⟩⟩
  · exact (replaces.rows id).trans (if_pos rfl)
  · rw [updated.row]
    exact ended

theorem saved_answered {given stored : Delay}
    (answers : before.Answers (.store (.saveDelay given)) (.ok stored) after) :
    ∃ name, stored = { given with id := some name } ∧ after.store.Keeps stored := by
  obtain ⟨stamp, told, rfl⟩ := answers
  have same : stored = { given with id := some before.store.nextDelay } := Except.ok.inj told
  refine ⟨before.store.nextDelay, same, before.store.nextDelay, stored, ?_, ?_, .refl stored⟩
  · rw [same]
  · rw [same]
    exact (Store.lookup?_saveDelay _ given before.store).trans (if_pos rfl)

theorem listed_answered (holds : EnginePast.Holds past before) (sound : Store.WellFormed before.store)
    {now : Stamp} {jobs : List Delay} (warranted : Warranted past (.store (.pendingDelays now)))
    (answers : before.Answers (.store (.pendingDelays now)) (.ok jobs) after) {job : Delay}
    (member : job ∈ jobs) : after.store.Keeps job ∧ after.time.NotBefore job.resumeAt := by
  obtain ⟨stamp, told, rfl⟩ := answers
  have answered : before.store.pendingDelays now = .ok jobs := told.symm
  obtain ⟨⟨name, row⟩, _, due⟩ := (Store.mem_pendingDelays answered job).mp member
  have present := Table.lookup?_of_mem sound.delaysDistinct row
  have shown : Clocked past now := by
    have first : past = [⟨.clock, .ok now⟩] := warranted
    rw [first]
    exact List.mem_cons_self
  exact ⟨⟨name, job, sound.delayNamed present, present, .refl job⟩, (holds.clocked shown).trans due⟩

theorem answer (holds : EnginePast.Holds past before) (sound : Store.WellFormed before.store)
    (warranted : Warranted past request) (answers : before.Answers request reply after) :
    EnginePast.Holds (⟨request, reply⟩ :: past) after := by
  obtain ⟨evolves, _⟩ := Scene.evolves_of_answers sound holds warranted answers
  have still := holds.evolve evolves
  constructor
  case clocked =>
    intro now clocked
    rcases List.mem_cons.mp clocked with head | tail
    · cases head
      obtain ⟨told, rfl⟩ := answers
      cases told
      exact Stamp.NotBefore.refl _
    · exact still.clocked tail
  case ordered =>
    intro now first earlier clocked before_
    rcases List.suffix_cons_iff.mp clocked with head | tail
    · cases head
      obtain ⟨told, rfl⟩ := answers
      cases told
      exact holds.clocked before_
    · exact still.ordered tail before_
  case made =>
    intro given found told
    rcases told_cons told with head | tail
    · cases head
      obtain ⟨stamp, told, rfl⟩ := answers
      rw [(Store.createSession_ok (Store.changing_ok told.symm)).row]
      exact warranted.2.1
    · exact still.made tail
  case read =>
    intro id found told
    rcases told_cons told with head | tail
    · cases head
      obtain ⟨stamp, told, rfl⟩ := answers
      exact sound.sessionNamed (Except.ok.inj told).symm
    · exact still.read tail
  case saw =>
    intro found saw
    rcases saw_answered sound warranted answers saw with earlier | known
    · exact still.saw earlier
    · exact known
  case wrote =>
    intro session expected stored told
    rcases told_cons told with head | tail
    · cases head
      exact holds.wrote_answered warranted answers
    · exact still.wrote tail
  case saved =>
    intro given stored told
    rcases told_cons told with head | tail
    · cases head
      exact saved_answered answers
    · exact still.saved tail
  case listed =>
    intro job listed
    obtain ⟨now, jobs, told, member⟩ := listed
    rcases told_cons told with head | tail
    · cases head
      exact holds.listed_answered sound warranted answers member
    · exact still.listed ⟨now, jobs, tail, member⟩

end EnginePast.Holds

/-! ### Workers know what they were told -/

theorem EnginePast.Fewer.holds {later past : EnginePast} (fewer : Fewer later past) {scene : Scene}
    (holds : EnginePast.Holds past scene) : EnginePast.Holds later scene where
  clocked clocked := holds.clocked (fewer.clocked clocked)
  ordered clocked first := holds.ordered (fewer.given clocked) first
  read told := holds.read (fewer.told told)
  made told := holds.made (fewer.told told)
  saw saw := holds.saw (fewer.saw saw)
  wrote told := holds.wrote (fewer.told told)
  saved told := holds.saved (fewer.told told)
  listed listed := holds.listed (fewer.listed listed)

namespace Workplace

variable {ι : Type}

/-- The store has its shape, and what every worker was told holds. -/
structure Informed (place : Workplace ι) : Prop where
  shape : Store.WellFormed place.scene.store
  holds : ∀ index, EnginePast.Holds (place.worker index).past place.scene

/-- A warranted call of one worker has been answered. -/
structure Answering (before after : Workplace ι) (index : ι) (past : EnginePast) (request : Call)
    (reply : Except Fault request.Answer) : Prop where
  asks : (before.worker index).past = past
  warranted : Warranted past request
  answers : before.scene.Answers request reply after.scene
  told : (after.worker index).past = ⟨request, reply⟩ :: past
  others : ∀ other, other ≠ index → (after.worker other).past = (before.worker other).past

theorem Mannered.answering {before after : Workplace ι} (mannered : Mannered before) {index : ι}
    {past : EnginePast} {request : Call}
    {next : Except Fault request.Answer → Engine (Option EventReport)}
    {reply : Except Fault request.Answer}
    (calls : before.worker index = ⟨past, .call request next⟩)
    (answers : before.scene.Answers request reply after.scene)
    (turn : Turn before after index ⟨⟨request, reply⟩ :: past, next reply⟩) :
    Answering before after index past request reply where
  asks := by rw [calls]
  warranted := (mannered.at_call calls).1
  answers := answers
  told := by rw [turn.1]
  others other apart := by rw [turn.2 other apart]

/-- Nothing is written and nobody is told anything, while time may pass. -/
structure Still (before after : Workplace ι) : Prop where
  store : after.scene.store = before.scene.store
  time : after.scene.time.NotBefore before.scene.time
  fewer : ∀ index, Fewer (after.worker index).past (before.worker index).past

/-- A step answers a warranted call, or is one in which nothing is told. -/
theorem Step.cases {before after : Workplace ι} (step : Step before after)
    (mannered : Mannered before) :
    Still before after ∨ ∃ index past request reply,
      Answering before after index past request reply := by
  cases step with
  | tick later => exact Or.inl ⟨rfl, later, fun _ => .refl _⟩
  | @begin _ index settings operation idle same turn =>
      refine Or.inl ⟨by rw [same], by rw [same]; exact .refl _, ?_⟩
      intro other
      by_cases own : other = index
      · subst own
        rw [turn.1]
        exact .nothing _
      · rw [turn.2 other own]
        exact .refl _
  | @refuse _ index past request next fault calls same turn =>
      refine Or.inl ⟨by rw [same], by rw [same]; exact .refl _, ?_⟩
      intro other
      by_cases own : other = index
      · subst own
        rw [turn.1, calls]
        exact .refused past request fault
      · rw [turn.2 other own]
        exact .refl _
  | @answer _ index past request next reply calls answers turn =>
      exact Or.inr ⟨index, past, request, reply, mannered.answering calls answers turn⟩

theorem Still.evolves {before after : Workplace ι} (still : Still before after) :
    before.scene.Evolves after.scene where
  time := still.time
  rows found := ⟨_, by rw [still.store]; exact found, Or.inl rfl⟩
  jobs found := ⟨_, by rw [still.store]; exact found, .refl _⟩

theorem Still.informed {before after : Workplace ι} (still : Still before after)
    (informed : Informed before) : Informed after where
  shape := by rw [still.store]; exact informed.shape
  holds index := (still.fewer index).holds ((informed.holds index).evolve still.evolves)

namespace Answering

variable {before after : Workplace ι} {index : ι} {past : EnginePast} {request : Call}
  {reply : Except Fault request.Answer}

theorem holds (answering : Answering before after index past request reply)
    (informed : Informed before) : EnginePast.Holds past before.scene := by
  rw [← answering.asks]
  exact informed.holds index

theorem evolves (answering : Answering before after index past request reply)
    (informed : Informed before) :
    before.scene.Evolves after.scene ∧ Store.WellFormed after.scene.store :=
  Scene.evolves_of_answers informed.shape (answering.holds informed) answering.warranted
    answering.answers

theorem informed (answering : Answering before after index past request reply)
    (informed : Informed before) : Informed after := by
  obtain ⟨evolves, shape⟩ := answering.evolves informed
  refine ⟨shape, ?_⟩
  intro other
  by_cases own : other = index
  · subst own
    rw [answering.told]
    exact (answering.holds informed).answer informed.shape answering.warranted answering.answers
  · rw [answering.others other own]
    exact (informed.holds other).evolve evolves

theorem row_after (answering : Answering before after index past request reply)
    (informed : Informed before) {id : String} {session : Session}
    (stands : after.scene.store.getSession id = some session) :
    before.scene.store.getSession id = some session ∨
      (before.scene.store.getSession id = none ∧ session.status = .running) ∨
      ∃ written expected found stamp, request = .store (.updateSession written expected) ∧
        Replaces past before.scene.store id found written expected stamp session
          after.scene.store := by
  have holds := answering.holds informed
  rcases answering.answers.effect with same | ⟨asked, stamp, rfl, same⟩
  · rw [same] at stands
    exact Or.inl stands
  · have later : after.scene.store = (before.scene.store.answer stamp asked).2 := by rw [same]
    rw [later] at stands ⊢
    rcases Scene.row_of_store informed.shape holds answering.warranted stamp stands with
      old | new | ⟨written, expected, found, writes, replaces⟩
    · exact Or.inl old
    · exact Or.inr (Or.inl new)
    · exact Or.inr (Or.inr ⟨written, expected, found, stamp, congrArg Call.store writes, replaces⟩)

end Answering

theorem Reached.informed {place : Workplace ι} (reached : Reached place) : Informed place := by
  induction reached with
  | start time => exact ⟨Store.wellFormed_empty, fun _ => .nothing _⟩
  | step reached step informed =>
      rcases step.cases reached.mannered with still | ⟨index, past, request, reply, answering⟩
      · exact still.informed informed
      · exact answering.informed informed

theorem Step.evolves {before after : Workplace ι} (step : Step before after)
    (reached : Reached before) : before.scene.Evolves after.scene := by
  rcases step.cases reached.mannered with still | ⟨index, past, request, reply, answering⟩
  · exact still.evolves
  · exact (answering.evolves reached.informed).1

end Workplace

end ChatFlow

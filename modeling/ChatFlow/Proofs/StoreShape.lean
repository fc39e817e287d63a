import ChatFlow.Proofs.StoreRows
/-
The shape that every store keeps: rows stand under their own identifiers, identifiers are numbered,
and the index names exactly the active sessions. It is derived from one lemma for each write.
-/

namespace ChatFlow.Store

/-! ### What the writes do -/

def nextSession (store : Store) : String := rowId "session" (store.counts.sessions + 1)

def nextDelay (store : Store) : String := rowId "delay" (store.counts.delays + 1)

theorem sessionName_of_id {session : Session} {id : String} (named : session.id = some id) :
    sessionName session = id := by
  simp [sessionName, named]

/-- A session has been created. -/
structure Created (store : Store) (session stored : Session) (later : Store) : Prop where
  row : stored = { session with id := some store.nextSession }
  free : session.isActive = true → Table.lookup? session.conversation store.active = none
  rows : ∀ id, later.getSession id =
    if store.nextSession = id then some stored else store.getSession id
  index : ∀ conversation, Table.lookup? conversation later.active =
    if session.isActive = true ∧ session.conversation = conversation then some store.nextSession
    else Table.lookup? conversation store.active
  sessionCount : later.counts.sessions = store.counts.sessions + 1
  delays : later.delays = store.delays
  delayCount : later.counts.delays = store.counts.delays

theorem createSession_ok {store later : Store} {session stored : Session}
    (done : store.createSession session = .ok (stored, later)) :
    Created store session stored later := by
  unfold createSession at done
  split at done
  · cases done
  · next free =>
      cases done
      refine ⟨rfl, fun active => ?_, fun id => ?_, fun conversation => ?_, rfl, rfl, rfl⟩
      · simpa [active, Table.has] using free
      · exact Table.lookup?_put id store.nextSession _ store.sessions
      · cases active : session.isActive with
        | false => simp
        | true => simp only [if_true, true_and, Table.lookup?_put]; rfl

/-- A session has been written. -/
structure Updated (store : Store) (session : Session) (expected : Int) (now : Stamp)
    (stored : Session) (later : Store) : Prop where
  found : ∃ current, store.getSession (sessionName session) = some current ∧
    current.revision = expected
  row : stored = { session with revision := expected + 1, updatedAt := now }
  free : session.isActive = true →
    Table.lookup? session.conversation store.active = none ∨
      Table.lookup? session.conversation store.active = some (sessionName session)
  rows : ∀ id, later.getSession id =
    if sessionName session = id then some stored else store.getSession id
  index : ∀ conversation, Table.lookup? conversation later.active =
    if session.conversation = conversation then
      if session.isActive = true then some (sessionName session)
      else if Table.lookup? conversation store.active = some (sessionName session) then none
      else Table.lookup? conversation store.active
    else Table.lookup? conversation store.active
  sessionCount : later.counts.sessions = store.counts.sessions
  delays : later.delays = store.delays
  delayCount : later.counts.delays = store.counts.delays

theorem updateSession_ok {store later : Store} {session stored : Session} {expected : Int}
    {now : Stamp} (done : store.updateSession session expected now = .ok (stored, later)) :
    Updated store session expected now stored later := by
  unfold updateSession at done
  dsimp only at done
  split at done
  · cases done
  · next current found =>
      split at done
      · cases done
      · next agreed =>
          split at done
          · cases done
          · next free =>
              cases done
              refine ⟨⟨current, found, Decidable.not_not.mp agreed⟩, rfl, fun active => ?_,
                fun id => ?_, fun conversation => ?_, rfl, rfl, rfl⟩
              · cases owner : Table.lookup? session.conversation store.active with
                | none => exact Or.inl rfl
                | some name =>
                    rw [active, owner] at free
                    exact Or.inr (by simpa using free)
              · exact Table.lookup?_put id (sessionName session) _ store.sessions
              · by_cases same : session.conversation = conversation
                · subst same
                  cases active : session.isActive with
                  | true => simp
                  | false =>
                      by_cases owned : Table.lookup? session.conversation store.active =
                          some (sessionName session)
                      · simp [owned, Table.lookup?_remove]
                      · simp [owned]
                · cases active : session.isActive with
                  | true => simp [same, Table.lookup?_put]
                  | false =>
                      by_cases owned : Table.lookup? session.conversation store.active =
                          some (sessionName session)
                      · simp [owned, same, Table.lookup?_remove]
                      · simp [owned, same]

theorem lookup?_saveDelay (name : String) (delay : Delay) (store : Store) :
    Table.lookup? name (store.saveDelay delay).2.delays =
      if store.nextDelay = name then some { delay with id := some store.nextDelay }
      else Table.lookup? name store.delays :=
  Table.lookup?_put name store.nextDelay _ store.delays

theorem lookup?_markDelay (name id : String) (now : Stamp) (store : Store) :
    Table.lookup? name (store.markDelay id now).2.delays =
      if id = name then (Table.lookup? name store.delays).map fun job =>
        if job.processed then job else processed now job
      else Table.lookup? name store.delays := by
  unfold markDelay
  split
  · next missing =>
      by_cases same : id = name
      · subst same
        cases found : Table.lookup? id store.delays with
        | none => simp
        | some job => simp_all
      · rw [if_neg same]
  · next job found =>
      obtain ⟨present, pending⟩ := Option.filter_eq_some_iff.mp found
      rw [Table.lookup?_put]
      by_cases same : id = name
      · subst same
        simp_all
      · rw [if_neg same, if_neg same]

@[simp]
theorem markDelay_sessions (id : String) (now : Stamp) (store : Store) :
    (store.markDelay id now).2.sessions = store.sessions := by
  unfold markDelay
  split <;> rfl

theorem lookup?_markSessionDelays (name : String) (session : Option String) (now : Stamp)
    (store : Store) :
    Table.lookup? name (store.markSessionDelays session now).2.delays =
      (Table.lookup? name store.delays).map fun job =>
        if isWaitingFor session job then processed now job else job :=
  Table.lookup?_mapValues name
    (fun job => if isWaitingFor session job then processed now job else job) store.delays

/-! ### The shape of a store -/

/-- Rows stand under their own numbered identifiers, and the index names the active sessions. -/
structure WellFormed (store : Store) : Prop where
  sessionNamed : ∀ {id session}, store.getSession id = some session → session.id = some id
  sessionNumbered : ∀ {id session}, store.getSession id = some session →
    ∃ number, number ≤ store.counts.sessions ∧ id = rowId "session" number
  indexed : ∀ {conversation id}, Table.lookup? conversation store.active = some id →
    ∃ session, store.getSession id = some session ∧ session.isActive = true ∧
      session.conversation = conversation
  listed : ∀ {id session}, store.getSession id = some session → session.isActive = true →
    Table.lookup? session.conversation store.active = some id
  delaysDistinct : (Table.names store.delays).Nodup
  delayNamed : ∀ {name job}, Table.lookup? name store.delays = some job → job.id = some name
  delayNumbered : ∀ {name job}, Table.lookup? name store.delays = some job →
    ∃ number, number ≤ store.counts.delays ∧ name = rowId "delay" number

theorem wellFormed_empty : WellFormed Store.empty where
  sessionNamed found := by cases found
  sessionNumbered found := by cases found
  indexed found := by cases found
  listed found := by cases found
  delaysDistinct := List.nodup_nil
  delayNamed found := by cases found
  delayNumbered found := by cases found

namespace WellFormed

variable {store later : Store}

theorem of_sameRows (sound : WellFormed store) (same : SameRows store later) :
    WellFormed later where
  sessionNamed found := sound.sessionNamed ((same.getSession _).symm.trans found)
  sessionNumbered found := by
    rw [same.sessionCount]
    exact sound.sessionNumbered ((same.getSession _).symm.trans found)
  indexed found := by
    rw [same.active] at found
    obtain ⟨session, stored, facts⟩ := sound.indexed found
    exact ⟨session, (same.getSession _).trans stored, facts⟩
  listed found active := by
    rw [same.active]
    exact sound.listed ((same.getSession _).symm.trans found) active
  delaysDistinct := by rw [same.delays]; exact sound.delaysDistinct
  delayNamed found := by rw [same.delays] at found; exact sound.delayNamed found
  delayNumbered found := by
    rw [same.delays] at found
    rw [same.delayCount]
    exact sound.delayNumbered found

theorem nextSession_free (sound : WellFormed store) : store.getSession store.nextSession = none := by
  cases found : store.getSession store.nextSession with
  | none => rfl
  | some session =>
      obtain ⟨number, bound, same⟩ := sound.sessionNumbered found
      have equal := rowId_injective same
      omega

theorem nextDelay_free (sound : WellFormed store) :
    Table.lookup? store.nextDelay store.delays = none := by
  cases found : Table.lookup? store.nextDelay store.delays with
  | none => rfl
  | some job =>
      obtain ⟨number, bound, same⟩ := sound.delayNumbered found
      have equal := rowId_injective same
      omega

/-- A session that is written where a row is found has that row's identifier. -/
theorem id_of_found (sound : WellFormed store) {session current : Session}
    (found : store.getSession (sessionName session) = some current) :
    session.id = some (sessionName session) := by
  cases known : session.id with
  | some id => simp [sessionName, known]
  | none =>
      obtain ⟨number, _bound, same⟩ := sound.sessionNumbered found
      have unnamed : sessionName session = "None" := by simp [sessionName, known]
      exact absurd (same.symm.trans unnamed) (rowId_session_ne_none number)

theorem created (sound : WellFormed store) {session stored : Session}
    (made : Created store session stored later) : WellFormed later where
  sessionNamed {id row} found := by
    rw [made.rows] at found
    split at found
    · next same =>
        cases found
        rw [made.row, ← same]
    · exact sound.sessionNamed found
  sessionNumbered {id row} found := by
    rw [made.rows] at found
    rw [made.sessionCount]
    split at found
    · next same => exact ⟨_, Nat.le_refl _, same.symm⟩
    · obtain ⟨number, bound, same⟩ := sound.sessionNumbered found
      exact ⟨number, Nat.le_succ_of_le bound, same⟩
  indexed {conversation id} found := by
    rw [made.index] at found
    split at found
    · next facts =>
        cases found
        refine ⟨stored, by rw [made.rows, if_pos rfl], ?_⟩
        rw [made.row]
        exact facts
    · obtain ⟨row, present, facts⟩ := sound.indexed found
      refine ⟨row, ?_, facts⟩
      rw [made.rows, if_neg]
      · exact present
      · intro same
        rw [← same, sound.nextSession_free] at present
        cases present
  listed {id row} found active := by
    rw [made.rows] at found
    rw [made.index]
    split at found
    · next same =>
        cases found
        rw [made.row] at active ⊢
        rw [if_pos ⟨active, rfl⟩, same]
    · have owner := sound.listed found active
      rw [if_neg]
      · exact owner
      · intro facts
        rw [← facts.2, made.free facts.1] at owner
        cases owner
  delaysDistinct := by rw [made.delays]; exact sound.delaysDistinct
  delayNamed found := by rw [made.delays] at found; exact sound.delayNamed found
  delayNumbered found := by
    rw [made.delays] at found
    rw [made.delayCount]
    exact sound.delayNumbered found

theorem indexed_updated (sound : WellFormed store) {session stored : Session} {expected : Int}
    {now : Stamp} (wrote : Updated store session expected now stored later)
    (stays : ∀ current, store.getSession (sessionName session) = some current →
      current.conversation = session.conversation) {conversation id : String}
    (found : Table.lookup? conversation later.active = some id) :
    ∃ row, later.getSession id = some row ∧ row.isActive = true ∧
      row.conversation = conversation := by
  rw [wrote.index] at found
  split at found
  · next here =>
      split at found
      · next active =>
          cases found
          refine ⟨stored, by rw [wrote.rows, if_pos rfl], ?_⟩
          rw [wrote.row]
          exact ⟨active, here⟩
      · -- an ended session loses its own entry and no other one
        split at found
        · cases found
        · next other =>
            obtain ⟨row, present, facts⟩ := sound.indexed found
            refine ⟨row, ?_, facts⟩
            rw [wrote.rows, if_neg]
            · exact present
            · intro same
              exact other (found.trans (congrArg some same.symm))
  · next elsewhere =>
      obtain ⟨row, present, facts⟩ := sound.indexed found
      refine ⟨row, ?_, facts⟩
      rw [wrote.rows, if_neg]
      · exact present
      · intro same
        subst same
        exact elsewhere ((stays row present).symm.trans facts.2)

theorem listed_updated (sound : WellFormed store) {session stored : Session} {expected : Int}
    {now : Stamp} (wrote : Updated store session expected now stored later) {id : String}
    {row : Session} (found : later.getSession id = some row) (active : row.isActive = true) :
    Table.lookup? row.conversation later.active = some id := by
  rw [wrote.rows] at found
  rw [wrote.index]
  split at found
  · next same =>
      cases found
      rw [wrote.row] at active ⊢
      rw [if_pos rfl, if_pos active, same]
  · next other =>
      have owner := sound.listed found active
      by_cases here : session.conversation = row.conversation
      · rw [if_pos here]
        by_cases nowActive : session.isActive = true
        · -- the write would have been refused, with another owner of the conversation
          rw [if_pos nowActive]
          rcases wrote.free nowActive with free | own
          · rw [here, owner] at free
            cases free
          · rw [here, owner] at own
            exact absurd (Option.some.inj own).symm other
        · rw [if_neg nowActive, if_neg]
          · exact owner
          · rw [owner]
            intro own
            exact other (Option.some.inj own).symm
      · rw [if_neg here]
        exact owner

/-- A session that is written stays on its conversation. The index follows it: whoever the index
names for a conversation is the one that was active on it before or is so now. -/
theorem updated (sound : WellFormed store) {session stored : Session} {expected : Int}
    {now : Stamp} (wrote : Updated store session expected now stored later)
    (stays : ∀ current, store.getSession (sessionName session) = some current →
      current.conversation = session.conversation) : WellFormed later where
  sessionNamed {id row} found := by
    rw [wrote.rows] at found
    split at found
    · next same =>
        cases found
        obtain ⟨current, present, _agreed⟩ := wrote.found
        rw [wrote.row, ← same]
        exact sound.id_of_found present
    · exact sound.sessionNamed found
  sessionNumbered {id row} found := by
    rw [wrote.rows] at found
    rw [wrote.sessionCount]
    split at found
    · next same =>
        obtain ⟨current, present, _agreed⟩ := wrote.found
        exact sound.sessionNumbered (same ▸ present)
    · exact sound.sessionNumbered found
  indexed found := sound.indexed_updated wrote stays found
  listed found active := sound.listed_updated wrote found active
  delaysDistinct := by rw [wrote.delays]; exact sound.delaysDistinct
  delayNamed found := by rw [wrote.delays] at found; exact sound.delayNamed found
  delayNumbered found := by
    rw [wrote.delays] at found
    rw [wrote.delayCount]
    exact sound.delayNumbered found

/-- The shape is kept when only the timer jobs change, each under its name or as the next one. -/
theorem of_delays (sound : WellFormed store) (sessions : later.sessions = store.sessions)
    (active : later.active = store.active)
    (sessionCount : later.counts.sessions = store.counts.sessions)
    (distinct : (Table.names later.delays).Nodup)
    (named : ∀ {name job}, Table.lookup? name later.delays = some job → job.id = some name)
    (numbered : ∀ {name job}, Table.lookup? name later.delays = some job →
      ∃ number, number ≤ later.counts.delays ∧ name = rowId "delay" number) :
    WellFormed later where
  sessionNamed {id row} found := by
    rw [Store.getSession, sessions] at found
    exact sound.sessionNamed found
  sessionNumbered {id row} found := by
    rw [Store.getSession, sessions] at found
    rw [sessionCount]
    exact sound.sessionNumbered found
  indexed {conversation id} found := by
    rw [active] at found
    rw [Store.getSession, sessions]
    exact sound.indexed found
  listed {id row} found isActive := by
    rw [Store.getSession, sessions] at found
    rw [active]
    exact sound.listed found isActive
  delaysDistinct := distinct
  delayNamed := named
  delayNumbered := numbered

theorem saveDelay (sound : WellFormed store) (delay : Delay) :
    WellFormed (store.saveDelay delay).2 := by
  refine sound.of_delays rfl rfl rfl (Table.names_put_nodup sound.delaysDistinct _ _)
    (fun {name job} found => ?_) (fun {name job} found => ?_)
  · rw [lookup?_saveDelay] at found
    split at found
    · next same =>
        cases found
        exact congrArg some same
    · exact sound.delayNamed found
  · rw [lookup?_saveDelay] at found
    split at found
    · next same => exact ⟨_, Nat.le_refl _, same.symm⟩
    · obtain ⟨number, bound, same⟩ := sound.delayNumbered found
      exact ⟨number, Nat.le_succ_of_le bound, same⟩

/-- The shape is kept when jobs change all but their identifiers. -/
theorem of_marks (sound : WellFormed store)
    (tables : later = { store with delays := later.delays })
    (distinct : (Table.names later.delays).Nodup)
    (rows : ∀ {name job}, Table.lookup? name later.delays = some job →
      ∃ old, Table.lookup? name store.delays = some old ∧ job.id = old.id) : WellFormed later := by
  refine sound.of_delays (by rw [tables]) (by rw [tables]) (by rw [tables]) distinct
    (fun {name job} found => ?_) (fun {name job} found => ?_)
  · obtain ⟨old, present, same⟩ := rows found
    exact same.trans (sound.delayNamed present)
  · obtain ⟨old, present, _same⟩ := rows found
    rw [tables]
    exact sound.delayNumbered present

theorem markDelay (sound : WellFormed store) (id : String) (now : Stamp) :
    WellFormed (store.markDelay id now).2 := by
  have tables : (store.markDelay id now).2 =
      { store with delays := (store.markDelay id now).2.delays } := by
    unfold Store.markDelay
    split <;> rfl
  have distinct : (Table.names (store.markDelay id now).2.delays).Nodup := by
    unfold Store.markDelay
    split
    · exact sound.delaysDistinct
    · exact Table.names_put_nodup sound.delaysDistinct _ _
  refine sound.of_marks tables distinct fun {name job} found => ?_
  rw [lookup?_markDelay] at found
  split at found
  · obtain ⟨old, present, rfl⟩ := Option.map_eq_some_iff.mp found
    refine ⟨old, present, ?_⟩
    split <;> rfl
  · exact ⟨job, found, rfl⟩

theorem markSessionDelays (sound : WellFormed store) (session : Option String) (now : Stamp) :
    WellFormed (store.markSessionDelays session now).2 := by
  have names := Table.names_mapValues
    (fun job => if isWaitingFor session job then processed now job else job) store.delays
  refine sound.of_marks rfl (names ▸ sound.delaysDistinct) fun {name job} found => ?_
  rw [lookup?_markSessionDelays] at found
  obtain ⟨old, present, rfl⟩ := Option.map_eq_some_iff.mp found
  refine ⟨old, present, ?_⟩
  split <;> rfl

/-- The active session of a conversation is the one row that is active on it. -/
theorem activeSession_iff (sound : WellFormed store) (conversation : String) (session : Session) :
    store.activeSession conversation = some session ↔
      (∃ id, store.getSession id = some session) ∧ session.isActive = true ∧
        session.conversation = conversation := by
  unfold Store.activeSession
  constructor
  · intro found
    obtain ⟨id, owner, present⟩ := Option.bind_eq_some_iff.mp found
    obtain ⟨row, stored, facts⟩ := sound.indexed owner
    have same : row = session := Option.some.inj (stored.symm.trans present)
    exact ⟨⟨id, present⟩, same ▸ facts⟩
  · intro ⟨⟨id, present⟩, active, here⟩
    have owner := sound.listed present active
    rw [here] at owner
    rw [owner]
    exact present

end WellFormed

/-! ### Every operation keeps the shape -/

/-- Whether an operation leaves a session that it writes on its conversation. -/
def KeepsPlace (store : Store) : StoreCall → Prop
  | .updateSession session _ => ∀ current, store.getSession (sessionName session) = some current →
      current.conversation = session.conversation
  | _ => True

theorem WellFormed.answer {store : Store} (sound : WellFormed store) {request : StoreCall}
    (keeps : KeepsPlace store request) (now : Stamp) :
    WellFormed (store.answer now request).2 := by
  cases writes : request.writesRows with
  | false => exact sound.of_sameRows (answer_sameRows writes now store)
  | true =>
      cases request with
      | createSession session =>
          exact changing_snd WellFormed sound fun stored later done =>
            sound.created (createSession_ok done)
      | updateSession session expected =>
          exact changing_snd WellFormed sound fun stored later done =>
            sound.updated (updateSession_ok done) keeps
      | saveDelay delay => exact sound.saveDelay delay
      | markDelay id => exact sound.markDelay id now
      | markSessionDelays session => exact sound.markSessionDelays session now
      | _ => cases writes

end ChatFlow.Store

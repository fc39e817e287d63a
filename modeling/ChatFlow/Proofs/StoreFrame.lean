import ChatFlow.Proofs.Recollection
/-
What an operation leaves alone, and when it succeeds. An operation that neither writes a session nor
saves a job for it leaves its row as it is, and adds no job of its own.
-/

set_option autoImplicit false

namespace ChatFlow

/-- Whether an operation writes a session or saves a timer job for it. -/
def StoreCall.Touches (id : String) : StoreCall → Prop
  | .updateSession session _ => Store.sessionName session = id
  | .saveDelay job => job.session = id
  | _ => False

namespace Store

variable {store : Store} {id : String} {row : Session}

theorem getSession_of_untouched (sound : WellFormed store) {request : StoreCall}
    (apart : ¬request.Touches id) (stands : store.getSession id = some row) (stamp : Stamp) :
    (store.answer stamp request).2.getSession id = some row := by
  cases writes : request.writesRows with
  | false =>
      rw [(answer_sameRows writes stamp store).getSession]
      exact stands
  | true =>
      cases request with
      | createSession session =>
          refine changing_snd (fun later => later.getSession id = some row) stands
            fun stored later done => ?_
          rw [(createSession_ok done).rows, if_neg]
          · exact stands
          · intro same
            rw [← same, sound.nextSession_free] at stands
            cases stands
      | updateSession session expected =>
          refine changing_snd (fun later => later.getSession id = some row) stands
            fun stored later done => ?_
          have other : sessionName session ≠ id := apart
          exact ((updateSession_ok done).rows id).trans ((if_neg other).trans stands)
      | markDelay name =>
          have same := markDelay_sessions name stamp store
          show Table.lookup? id (store.markDelay name stamp).2.sessions = some row
          rw [same]
          exact stands
      | saveDelay | markSessionDelays => exact stands
      | _ => cases writes

/-- A job that stands after an operation stood before, and was marked no less; or it was saved. -/
theorem job_of_answer (request : StoreCall) (stamp : Stamp) {name : String} {job : Delay}
    (present : Table.lookup? name (store.answer stamp request).2.delays = some job) :
    (∃ old, Table.lookup? name store.delays = some old ∧ old.SameJob job ∧
      (job.processed = false → old.processed = false)) ∨
      ∃ given, request = .saveDelay given ∧ job = { given with id := some name } := by
  have kept (same : (store.answer stamp request).2.delays = store.delays) :
      ∃ old, Table.lookup? name store.delays = some old ∧ old.SameJob job ∧
        (job.processed = false → old.processed = false) := by
    rw [same] at present
    exact ⟨job, present, .refl job, id⟩
  cases writes : request.writesRows with
  | false => exact Or.inl (kept (answer_sameRows writes stamp store).delays)
  | true =>
      cases request with
      | createSession session =>
          exact Or.inl (kept (changing_snd (fun later => later.delays = store.delays) rfl
            fun stored later done => (createSession_ok done).delays))
      | updateSession session expected =>
          exact Or.inl (kept (changing_snd (fun later => later.delays = store.delays) rfl
            fun stored later done => (updateSession_ok done).delays))
      | saveDelay given =>
          have found := (lookup?_saveDelay name given store).symm.trans present
          by_cases same : store.nextDelay = name
          · rw [if_pos same] at found
            subst same
            cases found
            exact Or.inr ⟨given, rfl, rfl⟩
          · rw [if_neg same] at found
            exact Or.inl ⟨job, found, .refl job, id⟩
      | markDelay other =>
          have found := (lookup?_markDelay name other stamp store).symm.trans present
          by_cases same : other = name
          · rw [if_pos same] at found
            obtain ⟨old, stood, marked⟩ := Option.map_eq_some_iff.mp found
            refine Or.inl ⟨old, stood, ?_, ?_⟩
            · rw [← marked]
              split <;> rfl
            · intro open_
              rw [← marked] at open_
              split at open_
              · exact open_
              · cases open_
          · rw [if_neg same] at found
            exact Or.inl ⟨job, found, .refl job, id⟩
      | markSessionDelays session =>
          have found := (lookup?_markSessionDelays name session stamp store).symm.trans present
          obtain ⟨old, stood, marked⟩ := Option.map_eq_some_iff.mp found
          refine Or.inl ⟨old, stood, ?_, ?_⟩
          · rw [← marked]
            split <;> rfl
          · intro open_
            rw [← marked] at open_
            split at open_
            · cases open_
            · exact open_
      | _ => cases writes

theorem job_of_untouched {request : StoreCall} (apart : ¬request.Touches id) (stamp : Stamp)
    {name : String} {job : Delay}
    (present : Table.lookup? name (store.answer stamp request).2.delays = some job)
    (owner : job.session = id) :
    ∃ old, Table.lookup? name store.delays = some old ∧ old.SameJob job ∧
      (job.processed = false → old.processed = false) := by
  rcases job_of_answer request stamp present with old | ⟨given, rfl, saved⟩
  · exact old
  · rw [saved] at owner
    exact absurd owner apart

/-- An active session may be written with its revision, while it stays in its conversation. -/
theorem updateSession_succeeds (sound : WellFormed store) {session : Session} {expected : Int}
    (named : session.id = some id) (stands : store.getSession id = some row)
    (active : row.isActive = true) (place : session.conversation = row.conversation)
    (agreed : row.revision = expected) (stamp : Stamp) :
    ∃ stored later, store.updateSession session expected stamp = .ok (stored, later) := by
  have called : sessionName session = id := by simp [sessionName, named]
  have owner : Table.lookup? session.conversation store.active = some id := by
    rw [place]
    exact sound.listed stands active
  unfold updateSession
  dsimp only
  rw [called, stands, owner]
  dsimp only
  rw [if_neg (Decidable.not_not.mpr agreed), if_neg (by simp)]
  exact ⟨_, _, rfl⟩

/-- Jobs are listed where they are of the kind of the time at which they are asked for. -/
theorem pendingDelays_succeeds {now : Stamp}
    (kinds : ∀ name job, (name, job) ∈ store.delays →
      now.offset.isSome = job.resumeAt.offset.isSome) :
    ∃ jobs, store.pendingDelays now = .ok jobs := by
  have waiting {job : Delay} {jobs : List Delay} (given : jobs.Sublist (store.delays.map Prod.snd))
      (member : job ∈ jobs) : now.offset.isSome = job.resumeAt.offset.isSome := by
    obtain ⟨entry, stored, rfl⟩ := List.mem_map.mp (given.subset member)
    exact kinds entry.1 entry.2 stored
  have sameKind {jobs : List Delay} (given : jobs.Sublist (store.delays.map Prod.snd)) :
      ∀ stamp ∈ jobs.map Delay.resumeAt, now.offset.isSome = stamp.offset.isSome := by
    intro stamp member
    obtain ⟨job, listed, rfl⟩ := List.mem_map.mp member
    exact waiting given listed
  unfold pendingDelays sortByStamp
  dsimp only
  have unmarked : ((store.delays.map Prod.snd).filter fun job => !job.processed).Sublist
      (store.delays.map Prod.snd) := List.filter_sublist
  rw [if_pos, if_pos]
  · exact ⟨_, rfl⟩
  · exact areComparable_of_sameKind (sameKind (List.filter_sublist.trans unmarked))
  · refine @areComparable_of_sameKind now _ fun stamp member => ?_
    rcases List.mem_cons.mp member with same | listed
    · rw [same]
    · exact sameKind unmarked stamp listed

/-! ### Sessions and logs -/

/-- An operation that neither creates nor writes a session leaves all sessions as they are. -/
theorem answer_getSession {request : StoreCall} (quiet : (Call.store request).writesSession = false)
    (stamp : Stamp) (name : String) :
    (store.answer stamp request).2.getSession name = store.getSession name := by
  cases writes : request.writesRows with
  | false => exact (answer_sameRows writes stamp store).getSession name
  | true =>
      cases request with
      | markDelay job => exact congrArg (Table.lookup? name) (markDelay_sessions job stamp store)
      | saveDelay | markSessionDelays => rfl
      | createSession | updateSession => cases quiet
      | _ => cases writes

/-- The rows of the log that tell of nodes that were begun for a session. -/
def nodeStarts (store : Store) (session : String) : List LogEntry :=
  store.logs.filter fun row => row.kind = .nodeStart && row.session = some session

theorem nodeStarts_saveLogs {session : String} {rows : List LogEntry}
    (others : ∀ row ∈ rows, row.kind = .nodeStart → row.session ≠ some session) (store : Store) :
    (store.saveLogs rows).nodeStarts session = store.nodeStarts session := by
  unfold saveLogs
  induction rows generalizing store with
  | nil => rfl
  | cons row rest ih =>
      have first : (appendLog store row).nodeStarts session = store.nodeStarts session := by
        have other := others row List.mem_cons_self
        unfold nodeStarts appendLog
        dsimp only
        rw [List.filter_append]
        simpa using other
      have tail := ih (fun other member => others other (List.mem_cons_of_mem row member))
        (appendLog store row)
      exact tail.trans first

/-- An operation that deletes no logs, and writes none on nodes begun for a session, leaves those on
record as they are. -/
theorem nodeStarts_answer {session : String} {request : StoreCall}
    (others : ∀ rows, request = .saveLogs rows →
      ∀ row ∈ rows, row.kind = .nodeStart → row.session ≠ some session)
    (kept : ∀ organization conversation, request ≠ .deleteLogs organization conversation)
    (stamp : Stamp) :
    (store.answer stamp request).2.nodeStarts session = store.nodeStarts session := by
  cases writes : request.writesLogs with
  | false =>
      unfold nodeStarts
      rw [answer_logs writes stamp store]
  | true =>
      cases request with
      | saveLogs rows => exact nodeStarts_saveLogs (others rows rfl) store
      | deleteLogs organization conversation => exact absurd rfl (kept organization conversation)
      | _ => cases writes

end Store

end ChatFlow

import ChatFlow.Proofs.StoreShape
/-
One active session for each conversation. Whatever calls a store has answered, its index of active
sessions agrees with its rows, so that looking up the active session of a conversation finds the
one there is.
-/

namespace ChatFlow.Store

/-- The stores that calls lead to from the empty one, where a session that is written stays on its
conversation. The calls may be accepted or refused, and carry any sessions and revisions. -/
inductive Grown : Store → Prop where
  | empty : Grown Store.empty
  | call {store : Store} (grown : Grown store) (now : Stamp) (request : StoreCall)
      (keeps : KeepsPlace store request) : Grown (store.answer now request).2

theorem Grown.wellFormed {store : Store} (grown : Grown store) : WellFormed store := by
  induction grown with
  | empty => exact wellFormed_empty
  | call grown now request keeps sound => exact sound.answer keeps now

theorem changing_error {α : Type} {store : Store} {result : Except Fault (α × Store)}
    {fault : Fault} (refused : (changing store result).1 = .error fault) :
    (changing store result).2 = store := by
  cases result with
  | error cause => rfl
  | ok pair => cases refused

theorem answer_error {store : Store} {now : Stamp} {request : StoreCall} {fault : Fault}
    (refused : (store.answer now request).1 = .error fault) :
    (store.answer now request).2 = store := by
  cases request with
  | updateFlow | replaceGraph | createSession | updateSession => exact changing_error refused
  | createFlow | deleteFlow | saveVersion | saveDelay | markDelay | markSessionDelays
  | deleteLogs | saveLogs => cases refused
  | getFlow | getOwnedFlow | flowsOf | triggerCandidates | versionsOf | getVersion | getSession
  | activeSession | activeSessionsOf | pendingDelays | getLogs => rfl

/-- An entry of the index always leads to a row. -/
theorem WellFormed.activeSession_eq_none_iff {store : Store} (sound : WellFormed store)
    (conversation : String) :
    store.activeSession conversation = none ↔
      Table.lookup? conversation store.active = none := by
  unfold Store.activeSession
  cases owner : Table.lookup? conversation store.active with
  | none => simp
  | some id =>
      obtain ⟨session, stored, _facts⟩ := sound.indexed owner
      simp [stored]

/-- At most one stored session is active on a conversation, and the index names exactly it. So the
active session of a conversation is found whenever there is one, and a refused call changes
nothing. -/
theorem active_session_unique {store : Store} (grown : Grown store) :
    (∀ {first second : String} {session other : Session},
      store.getSession first = some session → store.getSession second = some other →
      session.isActive = true → other.isActive = true →
      session.conversation = other.conversation → first = second) ∧
    (∀ conversation id, Table.lookup? conversation store.active = some id ↔
      ∃ session, store.getSession id = some session ∧ session.isActive = true ∧
        session.conversation = conversation) ∧
    (∀ conversation, store.activeSession conversation = none ↔
      Table.lookup? conversation store.active = none) ∧
    (∀ conversation session, store.activeSession conversation = some session ↔
      (∃ id, store.getSession id = some session) ∧ session.isActive = true ∧
        session.conversation = conversation) ∧
    (∀ now request fault, (store.answer now request).1 = .error fault →
      (store.answer now request).2 = store) := by
  have sound := grown.wellFormed
  refine ⟨?_, ?_, sound.activeSession_eq_none_iff, sound.activeSession_iff, ?_⟩
  · intro first second session other here there active otherActive same
    have owner := sound.listed here active
    have otherOwner := sound.listed there otherActive
    rw [same, otherOwner] at owner
    exact (Option.some.inj owner).symm
  · intro conversation id
    constructor
    · intro owner
      exact sound.indexed owner
    · intro ⟨session, stored, active, here⟩
      rw [← here]
      exact sound.listed stored active
  · intro now request fault refused
    exact answer_error refused

/-! ### A session that ends and comes back too late -/

/-- A session of a conversation, stored for the first time or with the identifier it got. -/
def sampleSession (id : Option String) (active : Bool) : Session where
  id := id
  conversation := "conv_1"
  organization := "org_1"
  connection := none
  flow := "flow-0001"
  currentNode := "start"
  bag := []
  status := if active then .running else .cancelled
  isActive := active
  revision := 0
  endReason := none
  resumeAt := none
  startedBy := none
  startedAt := default
  updatedAt := default
  endedAt := none

def opened : Store := (Store.empty.answer default (.createSession (sampleSession none true))).2

def closed : Store :=
  (opened.answer default (.updateSession (sampleSession (some "session-0001") false) 0)).2

/-- A second session starts on the conversation. -/
def takenOver : Store := (closed.answer default (.createSession (sampleSession none true))).2

theorem takenOver_grown : Grown takenOver := by
  have first : Grown opened := Grown.empty.call default (.createSession _) trivial
  have second : Grown closed := by
    refine first.call default (.updateSession _ 0) fun current found => ?_
    have row : opened.getSession "session-0001" = some (sampleSession (some "session-0001") true) :=
      by decide +kernel
    have same := Option.some.inj (found.symm.trans row)
    rw [same]
    rfl
  exact second.call default (.createSession _) trivial

/-- The first session cannot be made active again, and the second one stays the active one. -/
theorem active_session_unique_takenOver :
    Grown takenOver ∧
    (takenOver.answer default
      (.updateSession (sampleSession (some "session-0001") true) 1)).2 = takenOver ∧
    ∃ session, takenOver.getSession "session-0002" = some session ∧ session.isActive = true ∧
      session.conversation = "conv_1" := by
  have facts := active_session_unique takenOver_grown
  have refused : takenOver.updateSession (sampleSession (some "session-0001") true) 1 default =
      .error (.conflict (.activeSession "conv_1")) := by rfl
  refine ⟨takenOver_grown, facts.2.2.2.2 default (.updateSession _ 1)
      (.conflict (.activeSession "conv_1")) ?_,
    (facts.2.1 "conv_1" "session-0002").mp (by decide +kernel)⟩
  exact congrArg (fun result => (changing takenOver result).1) refused

end ChatFlow.Store

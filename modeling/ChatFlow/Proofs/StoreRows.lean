import ChatFlow.Proofs.Tables
import ChatFlow.Store.Basic
/-
What each operation of the store does to the rows of sessions and timer jobs: an operation either
leaves them all as they are, or is one of five writes. A refused write changes nothing.
-/

namespace ChatFlow

/-! ### Names of rows -/

theorem padded_injective (count : Nat) {first second : Nat}
    (same : Stamp.padded count first = Stamp.padded count second) : first = second := by
  have value (number : Nat) : Nat.ofDigitChars 10 (Stamp.padded count number) 0 = number := by
    simp only [Stamp.padded, Nat.ofDigitChars_append, Nat.ofDigitChars_replicate_zero,
      Nat.mul_zero, Nat.ofDigitChars_ten_toDigits]
  rw [← value first, same, value second]

theorem rowId_injective {kind : String} {first second : Nat}
    (same : rowId kind first = rowId kind second) : first = second := by
  have characters := congrArg String.toList same
  simp only [rowId, String.toList_append, String.toList_ofList] at characters
  exact padded_injective 4 (List.append_cancel_left characters)

/-- A session without an identifier is called by a name that no row has. -/
theorem rowId_session_ne_none (number : Nat) : rowId "session" number ≠ "None" := by
  intro same
  have characters := congrArg (fun name => name.toList.head?) same
  simp [rowId] at characters

namespace Store

/-! ### Operations that leave the rows alone -/

/-- The sessions, their index and the timer jobs are the same in two stores. -/
structure SameRows (store later : Store) : Prop where
  sessions : later.sessions = store.sessions
  active : later.active = store.active
  delays : later.delays = store.delays
  sessionCount : later.counts.sessions = store.counts.sessions
  delayCount : later.counts.delays = store.counts.delays

theorem SameRows.refl (store : Store) : SameRows store store := ⟨rfl, rfl, rfl, rfl, rfl⟩

theorem SameRows.trans {first middle last : Store} (lower : SameRows first middle)
    (upper : SameRows middle last) : SameRows first last where
  sessions := upper.sessions.trans lower.sessions
  active := upper.active.trans lower.active
  delays := upper.delays.trans lower.delays
  sessionCount := upper.sessionCount.trans lower.sessionCount
  delayCount := upper.delayCount.trans lower.delayCount

theorem SameRows.getSession {store later : Store} (same : SameRows store later) (id : String) :
    later.getSession id = store.getSession id := by
  unfold Store.getSession
  rw [same.sessions]

end Store

/-- Whether an operation can change a session, the index of active sessions or a timer job. -/
def StoreCall.writesRows : StoreCall → Bool
  | .createSession _ | .updateSession .. | .saveDelay _ | .markDelay _ | .markSessionDelays _ =>
      true
  | _ => false

def StoreCall.writesLogs : StoreCall → Bool
  | .saveLogs _ | .deleteLogs .. => true
  | _ => false

namespace Store

theorem setFields_ok {id : String} {settings : Table Value} {now : Stamp} {flow changed : Flow}
    {store later : Store} (done : store.setFields id settings now flow = .ok (changed, later)) :
    later = { store with flows := Table.put id changed store.flows } := by
  unfold setFields at done
  split at done
  · cases done
    rfl
  · cases done

/-- What holds of a store and of what a change makes of it holds after the change was tried. -/
theorem changing_snd {α : Type} (holds : Store → Prop) {store : Store}
    {result : Except Fault (α × Store)} (start : holds store)
    (after : ∀ value later, result = .ok (value, later) → holds later) :
    holds (changing store result).2 := by
  cases result with
  | error fault => exact start
  | ok pair => exact after pair.1 pair.2 rfl

/-- A change of one flow leaves the other tables as they are. -/
theorem updateFlow_ok {organization id : String} {settings : Table Value} {now : Stamp}
    {store later : Store} {found : Option Flow}
    (done : store.updateFlow organization id settings now = .ok (found, later)) :
    ∃ flows, later = { store with flows := flows } := by
  unfold updateFlow at done
  split at done
  · cases done
    exact ⟨store.flows, rfl⟩
  · next flow _ =>
      cases result : store.setFields id settings now flow with
      | error fault => rw [result] at done; cases done
      | ok pair =>
          rw [result] at done
          cases done
          exact ⟨_, setFields_ok result⟩

theorem replaceGraph_ok {id : String} {expected : Int} {nodes edges : List Value}
    {editor : Option String} {now : Stamp} {store later : Store} {found : Option Flow}
    (done : store.replaceGraph id expected nodes edges editor now = .ok (found, later)) :
    ∃ flows, later = { store with flows := flows } := by
  unfold replaceGraph at done
  split at done
  · cases done
    exact ⟨store.flows, rfl⟩
  · next flow _ =>
      dsimp only at done
      generalize settled : store.setFields id _ now flow = result at done
      cases result with
      | error fault => cases done
      | ok pair =>
          cases done
          exact ⟨_, setFields_ok settled⟩

theorem saveLogs_sameRows (entries : List LogEntry) (store : Store) :
    SameRows store (store.saveLogs entries) := by
  unfold saveLogs
  induction entries generalizing store with
  | nil => exact SameRows.refl store
  | cons entry rest ih =>
      have added : SameRows store (appendLog store entry) := ⟨rfl, rfl, rfl, rfl, rfl⟩
      exact added.trans (ih (appendLog store entry))

/-- An operation that writes no rows leaves them all as they are. -/
theorem answer_sameRows {request : StoreCall} (reads : request.writesRows = false) (now : Stamp)
    (store : Store) : SameRows store (store.answer now request).2 := by
  cases request with
  | createSession | updateSession | saveDelay | markDelay | markSessionDelays => cases reads
  | createFlow | deleteLogs => exact ⟨rfl, rfl, rfl, rfl, rfl⟩
  | updateFlow =>
      refine changing_snd (SameRows store) (SameRows.refl store) fun found later done => ?_
      obtain ⟨flows, rfl⟩ := updateFlow_ok done
      exact ⟨rfl, rfl, rfl, rfl, rfl⟩
  | replaceGraph =>
      refine changing_snd (SameRows store) (SameRows.refl store) fun found later done => ?_
      obtain ⟨flows, rfl⟩ := replaceGraph_ok done
      exact ⟨rfl, rfl, rfl, rfl, rfl⟩
  | deleteFlow =>
      simp only [answer, changed, deleteFlow]
      split <;> exact ⟨rfl, rfl, rfl, rfl, rfl⟩
  | saveVersion =>
      simp only [answer, changed, saveVersion]
      split <;> exact ⟨rfl, rfl, rfl, rfl, rfl⟩
  | saveLogs entries => exact saveLogs_sameRows entries store
  | getFlow | getOwnedFlow | flowsOf | triggerCandidates | versionsOf | getVersion | getSession
  | activeSession | activeSessionsOf | pendingDelays | getLogs => exact SameRows.refl store

theorem answer_logs {request : StoreCall} (reads : request.writesLogs = false) (now : Stamp)
    (store : Store) : (store.answer now request).2.logs = store.logs := by
  cases request with
  | saveLogs | deleteLogs => cases reads
  | updateFlow =>
      refine changing_snd (fun later => later.logs = store.logs) rfl
        fun found later done => ?_
      obtain ⟨flows, rfl⟩ := updateFlow_ok done
      rfl
  | replaceGraph =>
      refine changing_snd (fun later => later.logs = store.logs) rfl
        fun found later done => ?_
      obtain ⟨flows, rfl⟩ := replaceGraph_ok done
      rfl
  | deleteFlow =>
      simp only [answer, changed, deleteFlow]
      split <;> rfl
  | saveVersion =>
      simp only [answer, changed, saveVersion]
      split <;> rfl
  | createSession =>
      refine changing_snd (fun later => later.logs = store.logs) rfl
        fun stored later done => ?_
      unfold createSession at done
      split at done <;> cases done
      rfl
  | updateSession =>
      refine changing_snd (fun later => later.logs = store.logs) rfl
        fun stored later done => ?_
      unfold updateSession at done
      dsimp only at done
      repeat' split at done
      all_goals cases done
      all_goals rfl
  | markDelay =>
      simp only [answer, changed, markDelay]
      split <;> rfl
  | createFlow | saveDelay | markSessionDelays | getFlow | getOwnedFlow | flowsOf
  | triggerCandidates | versionsOf | getVersion | getSession | activeSession | activeSessionsOf
  | pendingDelays | getLogs => rfl

end Store

end ChatFlow

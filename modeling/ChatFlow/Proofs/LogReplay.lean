import ChatFlow.Proofs.LiveFlows
import ChatFlow.Proofs.TrailedEvents
/-
The log replays to the sessions. Events one after the other only add to it, and what it tells of a
session leads from the start to where the session stands, along edges of the flows that the events
have found in the store.
-/

set_option autoImplicit false

namespace ChatFlow

open Program EnginePast

namespace Store

variable {along : LogEntry → Prop} {store later : Store}

/-- The log leads every session from the start to where it stands, and tells of sessions that are
stored. -/
structure Replays (store : Store) : Prop where
  trail : ∀ id, Trail Node.startId (movesOfSession id store.logs) (store.nodeOf id)
  tells : ∀ row ∈ movesOf store.logs, store.Tells row

theorem replays_empty : Store.empty.Replays where
  trail _ := .here Node.startId
  tells _ member := nomatch member

theorem Replays.extended (replays : store.Replays) (extends_ : store.Extends along later) :
    later.Replays := by
  obtain ⟨added, logs, told, trails⟩ := extends_.log
  refine ⟨fun id => ?_, ?_⟩
  · rw [logs, movesOfSession_append]
    exact (replays.trail id).append (trails id)
  · rw [logs, movesOf_append]
    refine List.forall_mem_append.mpr ⟨fun row member => ?_, fun row member => (told row member).2⟩
    exact (replays.tells row member).kept extends_

end Store

namespace Workplace

variable {ι : Type} {may : Operation → Prop} {place before after : Workplace ι} {row : LogEntry}

/-- Between two places of a series stands an event that has added a row to the log, and what came
later has kept it there. -/
structure AddsRow (may : Operation → Prop) (place before after : Workplace ι) (row : LogEntry) :
    Prop where
  serial : Serial may before
  performs : ∃ index settings operation result, may operation ∧
    Performs before after index settings operation result
  onward : Steps after place
  adds : ∃ added, after.scene.store.logs = before.scene.store.logs ++ added ∧ row ∈ added
  keeps : after.scene.store.logs <+: place.scene.store.logs
  flows : before.scene.store.SameFlows after.scene.store

theorem AddsRow.later {last : Workplace ι} (adds : AddsRow may place before after row)
    (steps : Steps place last) (grows : place.scene.store.logs <+: last.scene.store.logs) :
    AddsRow may last before after row :=
  { adds with onward := adds.onward.trans steps, keeps := adds.keeps.trans grows }

/-- Every event adds to the log; where it tells of moves, it has left the flows as they were, and the
moves are along their edges. -/
theorem Performs.extends {index : ι} {settings : EngineSettings} {operation : Operation}
    {result : Except Fault (Option EventReport)}
    (performs : Performs before after index settings operation result)
    (serial : Serial may before) :
    before.scene.store.Extends
      (fun row => before.scene.store.Joins row ∧ before.scene.store.SameFlows after.scene.store)
      after.scene.store := by
  rcases performs.carries serial with advances | quiets
  · exact advances.log.mono fun _ joins => ⟨joins, advances.flows⟩
  · exact quiets.log.mono fun _ impossible => impossible.elim

/-- Each move in the log was written by one of the events, along an edge of the flow that this event
found in the store. -/
theorem Serial.moves (serial : Serial may place) :
    ∀ row ∈ movesOf place.scene.store.logs, ∃ before after,
      AddsRow may place before after row ∧ before.scene.store.Joins row := by
  induction serial with
  | start time => exact fun _ member => nomatch member
  | @event earlier after index settings operation result serial allowed performs ih =>
      obtain ⟨added, logs, told, _⟩ := (performs.extends serial).log
      have grows : earlier.scene.store.logs <+: after.scene.store.logs := ⟨added, logs.symm⟩
      rw [logs, movesOf_append]
      refine List.forall_mem_append.mpr ⟨fun row member => ?_, fun row member => ?_⟩
      · obtain ⟨first, next, adds, joins⟩ := ih row member
        exact ⟨first, next, adds.later performs.steps grows, joins⟩
      · obtain ⟨⟨joins, flows⟩, _⟩ := told row member
        have among : row ∈ added := (List.mem_filter.mp member).1
        exact ⟨earlier, after, ⟨serial, ⟨index, settings, operation, result, allowed, performs⟩,
          .refl, ⟨added, logs, among⟩, List.prefix_rfl, flows⟩, joins⟩

theorem Serial.replays (serial : Serial may place) : place.scene.store.Replays := by
  induction serial with
  | start time => exact Store.replays_empty
  | event serial allowed performs ih => exact ih.extended (performs.extends serial)

/-- However many events follow one upon the other, whatever the flows are and however they are redrawn
in between, the moves that the log tells of a session lead from the start, one after the other, to the
node where the session stands. Each of them was written by an event that found the session's flow in
the store with an edge between the two nodes, and left it there. -/
theorem log_replays_to_sessions (serial : Serial may place) {id : String} {session : Session}
    (stands : place.scene.store.getSession id = some session) :
    Trail Node.startId (movesOfSession id place.scene.store.logs) session.currentNode ∧
      ∀ row ∈ movesOfSession id place.scene.store.logs, ∃ before after,
        AddsRow may place before after row ∧ ∃ flow,
          before.scene.store.getFlow session.flow = some flow ∧ flow.Joins row := by
  have replays := serial.replays
  constructor
  · rw [← Store.nodeOf_stored stands]
    exact replays.trail id
  · intro row member
    obtain ⟨among, own⟩ := List.mem_filter.mp member
    obtain ⟨before, after, adds, flow, stored, joins⟩ := serial.moves row among
    obtain ⟨other, about, home⟩ := replays.tells row among
    have same : some other = some id := about.symm.trans (of_decide_eq_true own)
    cases same
    have along : row.flow = session.flow :=
      Option.some.inj (home.symm.trans (Store.flowOf_stored stands))
    exact ⟨before, after, adds, flow, along ▸ stored, joins⟩

/-- A session has left the start, and waits for its timer. -/
theorem log_replays_to_sessions_pausing : ∃ session row before after flow,
    pausing.scene.store.getSession "session-0001" = some session ∧
      Trail Node.startId (movesOfSession "session-0001" pausing.scene.store.logs)
        session.currentNode ∧
      row ∈ movesOfSession "session-0001" pausing.scene.store.logs ∧
      AddsRow (fun _ => True) pausing before after row ∧
      before.scene.store.getFlow session.flow = some flow ∧ flow.Joins row := by
  have serial : Serial (fun _ => True) pausing :=
    furnished_serial.carryingOut _ trivial 20 (by decide +kernel) (by decide +kernel)
  have stored : (pausing.scene.store.getSession "session-0001").isSome = true := by decide +kernel
  have moved : (movesOfSession "session-0001" pausing.scene.store.logs).isEmpty = false := by
    decide +kernel
  obtain ⟨session, stands⟩ := Option.isSome_iff_exists.mp stored
  obtain ⟨row, member⟩ := List.exists_mem_of_ne_nil _ (List.isEmpty_eq_false_iff.mp moved)
  obtain ⟨trail, written⟩ := log_replays_to_sessions serial stands
  obtain ⟨before, after, adds, flow, found, joins⟩ := written row member
  exact ⟨session, row, before, after, flow, stands, trail, member, adds, found, joins⟩

end Workplace

end ChatFlow

import ChatFlow.Proofs.Journeys
import ChatFlow.Proofs.OrderlyEvents
/-
What a run leaves in the store. The moves that it adds to the log lead its session from the node where
it stood to the node where it stands, along edges of the flow that is stored; on a flow whose edges all
lead to nodes no session comes to stand beside it.
-/

set_option autoImplicit false

namespace ChatFlow

open Program EnginePast

/-! ### Trails in the log -/

/-- The moves that rows tell of one session. -/
def movesOfSession (id : String) (rows : List LogEntry) : List LogEntry :=
  (movesOf rows).filter fun row => row.session = some id

theorem movesOfSession_append (id : String) (earlier later : List LogEntry) :
    movesOfSession id (earlier ++ later) = movesOfSession id earlier ++ movesOfSession id later := by
  unfold movesOfSession
  rw [movesOf_append, List.filter_append]

/-- A row as it was before it was stored. -/
def LogEntry.unnamed (row : LogEntry) : LogEntry := { row with id := none }

theorem movesOf_unnamed (rows : List LogEntry) :
    movesOf (rows.map LogEntry.unnamed) = (movesOf rows).map LogEntry.unnamed :=
  List.filter_map

theorem Trail.of_unnamed {here there : String} {rows others : List LogEntry}
    (trail : Trail here rows there)
    (same : others.map LogEntry.unnamed = rows.map LogEntry.unnamed) : Trail here others there := by
  induction trail generalizing others with
  | here node =>
      cases List.map_eq_nil_iff.mp same
      exact .here node
  | move fromNode toNode _ ih =>
      obtain ⟨other, rest, rfl, alike, tail⟩ := List.map_eq_cons_iff.mp same
      have starts := congrArg LogEntry.fromNode alike
      have ends := congrArg LogEntry.toNode alike
      exact .move (starts.trans fromNode) (ends.trans toNode) (ih tail)

/-- An edge of a flow joins the nodes between which a row tells of a move. -/
def Flow.Joins (flow : Flow) (row : LogEntry) : Prop :=
  ∃ edge ∈ flow.edges, row.fromNode = some edge.source ∧ row.toNode = some edge.target

namespace Store

variable {along other : LogEntry → Prop} {store middle later : Store} {id : String}
  {session : Session}

/-- A row tells of a move along an edge of its flow as that is stored. -/
def Joins (store : Store) (row : LogEntry) : Prop :=
  ∃ flow, store.getFlow row.flow = some flow ∧ flow.Joins row

theorem Joins.of_unnamed {row given : LogEntry} (joins : store.Joins given)
    (same : row.unnamed = given.unnamed) : store.Joins row := by
  have stored : store.Joins given.unnamed := joins
  rw [← same] at stored
  exact stored

/-- Where a session stands; one that is not stored is to begin at the start. -/
def nodeOf (store : Store) (id : String) : String :=
  ((store.getSession id).map Session.currentNode).getD Node.startId

theorem nodeOf_of_same (same : later.getSession id = store.getSession id) :
    later.nodeOf id = store.nodeOf id := by
  unfold nodeOf
  rw [same]

theorem nodeOf_stored (stands : store.getSession id = some session) :
    store.nodeOf id = session.currentNode := by
  unfold nodeOf
  rw [stands]
  rfl

/-- The flow of a session that is stored. -/
def flowOf (store : Store) (id : String) : Option String :=
  (store.getSession id).map Session.flow

theorem flowOf_of_same (same : later.getSession id = store.getSession id) :
    later.flowOf id = store.flowOf id := by
  unfold flowOf
  rw [same]

theorem flowOf_stored (stands : store.getSession id = some session) :
    store.flowOf id = some session.flow := by
  unfold flowOf
  rw [stands]
  rfl

/-- One session stands as it was written, and the others as they stood. -/
structure Sets (id : String) (row : Session) (store later : Store) : Prop where
  here : later.getSession id = some row
  others : ∀ other, other ≠ id → later.getSession other = store.getSession other

namespace Sets

variable {row : Session}

theorem found (sets : Sets id row store later) {other : String} {found : Session}
    (stands : later.getSession other = some found) :
    other = id ∧ found = row ∨ store.getSession other = some found := by
  by_cases same : other = id
  · subst same
    exact Or.inl ⟨rfl, Option.some.inj (stands.symm.trans sets.here)⟩
  · exact Or.inr ((sets.others other same).symm.trans stands)

theorem nodeOf (sets : Sets id row store later) (node : row.currentNode = store.nodeOf id)
    (other : String) : later.nodeOf other = store.nodeOf other := by
  by_cases same : other = id
  · subst same
    exact (nodeOf_stored sets.here).trans node
  · exact nodeOf_of_same (sets.others other same)

theorem flowOf (sets : Sets id row store later)
    (home : ∀ flow, store.flowOf id = some flow → row.flow = flow) {other flow : String}
    (known : store.flowOf other = some flow) : later.flowOf other = some flow := by
  by_cases same : other = id
  · subst same
    exact (flowOf_stored sets.here).trans (congrArg some (home flow known))
  · exact (flowOf_of_same (sets.others other same)).trans known

end Sets

/-- A row tells of a session that is stored, on its flow. -/
def Tells (store : Store) (row : LogEntry) : Prop :=
  ∃ id, row.session = some id ∧ store.flowOf id = some row.flow

/-- Sessions are kept on their flows. The log has grown by rows that tell of them, whose moves are of
some sort and lead each session from where it stood to where it stands. -/
structure Extends (along : LogEntry → Prop) (store later : Store) : Prop where
  kept : ∀ {id flow}, store.flowOf id = some flow → later.flowOf id = some flow
  log : ∃ added, later.logs = store.logs ++ added ∧
    (∀ row ∈ movesOf added, along row ∧ later.Tells row) ∧
    ∀ id, Trail (store.nodeOf id) (movesOfSession id added) (later.nodeOf id)

theorem Tells.kept {row : LogEntry} (tells : store.Tells row) (extends_ : store.Extends along later) :
    later.Tells row := by
  obtain ⟨id, about, home⟩ := tells
  exact ⟨id, about, extends_.kept home⟩

theorem Extends.trans (lower : store.Extends along middle) (upper : middle.Extends along later) :
    store.Extends along later := by
  obtain ⟨first, logs, told, trails⟩ := lower.log
  obtain ⟨second, logs', told', trails'⟩ := upper.log
  refine ⟨fun home => upper.kept (lower.kept home), first ++ second,
    by rw [logs', logs, List.append_assoc], ?_, fun id => ?_⟩
  · rw [movesOf_append]
    refine List.forall_mem_append.mpr ⟨fun row member => ?_, told'⟩
    exact ⟨(told row member).1, (told row member).2.kept upper⟩
  · rw [movesOfSession_append]
    exact (trails id).append (trails' id)

theorem Extends.mono (extends_ : store.Extends along later)
    (implies : ∀ row, along row → other row) : store.Extends other later := by
  obtain ⟨added, logs, told, trails⟩ := extends_.log
  exact ⟨extends_.kept, added, logs, fun row member => (told row member).imp_left (implies row),
    trails⟩

/-- Rows that tell of no moves, while every session stands where it stood. -/
theorem Extends.of_still {added : List LogEntry} (logs : later.logs = store.logs ++ added)
    (still : movesOf added = []) (nodes : ∀ id, later.nodeOf id = store.nodeOf id)
    (homes : ∀ id flow, store.flowOf id = some flow → later.flowOf id = some flow) :
    store.Extends along later := by
  refine ⟨fun home => homes _ _ home, added, logs, ?_, fun id => ?_⟩
  · rw [still]
    exact fun _ member => nomatch member
  · unfold movesOfSession
    rw [still, nodes id]
    exact .here _

/-! ### Sessions on their flows -/

/-- A session stands at a node of its flow. -/
def Inside (store : Store) (session : Session) : Prop :=
  ∃ flow, store.getFlow session.flow = some flow ∧
    (flow.node? session.currentNode).isSome = true

/-- A session stands beside its flow, where there is no node. -/
def Beside (store : Store) (session : Session) : Prop :=
  ∃ flow, store.getFlow session.flow = some flow ∧ flow.node? session.currentNode = none

end Store

/-- A flow begins at a node, and all its edges lead to nodes. -/
structure Flow.IsClosed (flow : Flow) : Prop where
  start : (flow.node? Node.startId).isSome = true
  targets : ∀ edge ∈ flow.edges, (flow.node? edge.target).isSome = true

/-- A session has ended because it came to no node. -/
def Session.IsLost (session : Session) : Prop :=
  session.status = .failed ∧ session.endReason = some "node_not_found"

namespace Store

variable {along other : LogEntry → Prop} {store middle later : Store}

def IsClosed (store : Store) : Prop :=
  ∀ {id flow}, store.getFlow id = some flow → flow.IsClosed

/-- Events have carried sessions on, and left the flows as they are. The log tells how the sessions
have moved. On closed flows, a session that goes on stands inside or as it stood, and one is lost only
if it stood beside its flow. -/
structure Advances (along : LogEntry → Prop) (store later : Store) : Prop where
  flows : store.SameFlows later
  log : store.Extends along later
  homes : ∀ {id row}, later.getSession id = some row →
    (∃ old, store.getSession id = some old ∧ old.flow = row.flow) ∨
      (store.getFlow row.flow).isSome = true
  inside : store.IsClosed → ∀ {id row}, later.getSession id = some row → row.isActive = true →
    store.Inside row ∨ store.getSession id = some row
  lost : store.IsClosed → ∀ {id row}, later.getSession id = some row → row.IsLost →
    store.getSession id = some row ∨
      ∃ old, store.getSession id = some old ∧ old.isActive = true ∧ store.Beside old

namespace Advances

theorem refl (store : Store) : store.Advances along store where
  flows := .refl store
  log := .of_still (List.append_nil _).symm rfl (fun _ => rfl) fun _ _ => id
  homes stands := Or.inl ⟨_, stands, rfl⟩
  inside _ _ _ stands _ := Or.inr stands
  lost _ _ _ stands _ := Or.inl stands

theorem mono (advances : store.Advances along later) (implies : ∀ row, along row → other row) :
    store.Advances other later :=
  { advances with log := advances.log.mono implies }

theorem trans (lower : store.Advances along middle) (upper : middle.Advances along later) :
    store.Advances along later := by
  have same (id : String) : middle.getFlow id = store.getFlow id := lower.flows.getFlow id
  have closes (closed : store.IsClosed) : middle.IsClosed := fun {id flow} stands =>
    closed ((same id).symm.trans stands)
  refine ⟨lower.flows.trans upper.flows, lower.log.trans upper.log, fun {id row} stands => ?_,
    fun closed {id row} stands active => ?_, fun closed {id row} stands gone => ?_⟩
  · rcases upper.homes stands with ⟨old, stood, alike⟩ | stored
    · rcases lower.homes stood with ⟨older, first, alike'⟩ | stored
      · exact Or.inl ⟨older, first, alike'.trans alike⟩
      · exact Or.inr (alike ▸ stored)
    · exact Or.inr (same row.flow ▸ stored)
  · rcases upper.inside (closes closed) stands active with ⟨flow, stored, node⟩ | stood
    · exact Or.inl ⟨flow, (same row.flow).symm.trans stored, node⟩
    · exact lower.inside closed stood active
  · rcases upper.lost (closes closed) stands gone with stood | ⟨old, stood, active, flow, stored, off⟩
    · exact lower.lost closed stood gone
    · have stored := (same old.flow).symm.trans stored
      rcases lower.inside closed stood active with ⟨other, stored', node⟩ | first
      · cases stored.symm.trans stored'
        rw [off] at node
        cases node
      · exact Or.inr ⟨old, first, active, flow, stored, off⟩

end Advances

theorem saveLogs_logs (entries : List LogEntry) (store : Store) :
    ∃ added, (store.saveLogs entries).logs = store.logs ++ added ∧
      added.map LogEntry.unnamed = entries.map LogEntry.unnamed := by
  unfold saveLogs
  induction entries generalizing store with
  | nil => exact ⟨[], (List.append_nil _).symm, rfl⟩
  | cons entry rest ih =>
      obtain ⟨added, logs, same⟩ := ih (appendLog store entry)
      refine ⟨_ :: added, logs.trans (List.append_assoc _ [_] _), ?_⟩
      rw [List.map_cons, List.map_cons, same]
      rfl

end Store

/-! ### Runs -/

namespace Run

variable {settings : EngineSettings} {store : Store} {id : String} {session : Session}
  {decision : Decision} {last : Progress} {inboundText : Option String} {isResume : Bool}
  {calls : List (Answered Call.Answer)}

/-- What a decision and the progress up to it owe to the flow of the session as it is stored. -/
structure Reaches (store : Store) (session : Session) (decision : Decision) (last : Progress) :
    Prop where
  trail : Trail session.currentNode (movesOf last.trace) last.node
  about : ∀ row ∈ movesOf last.trace,
    row.session = session.id ∧ row.flow = session.flow ∧ store.Joins row
  inside : store.IsClosed → decision.ending? = none →
    ∃ flow, store.getFlow session.flow = some flow ∧ (flow.node? last.node).isSome = true
  lost : store.IsClosed → ∀ outcome, decision = .terminate outcome "node_not_found" →
    store.Beside session

theorem decide_reaches {flow : Option Flow} (stored : store.getFlow session.flow = flow)
    (ran : Transcript (decide settings flow session inboundText isResume) calls
      (.ok (decision, last))) : Reaches store session decision last := by
  cases flow with
  | none =>
      rcases now_first ran with ⟨now, later, rfl, done⟩ | ⟨_, _, same⟩
      · obtain ⟨_, same⟩ := Transcript.of_done done
        have stays : (Progress.ofSession session).Stays last ∧
            decision = .terminate .failed "flow_not_found" := by
          cases same
          exact ⟨Progress.stays_log LogKind.noConfusion _, rfl⟩
        clear same
        obtain ⟨stays, rfl⟩ := stays
        refine ⟨?_, ?_, fun _ goes => (nomatch goes), fun _ _ same => ?_⟩
        · rw [stays.moves, stays.node]
          exact .here _
        · rw [stays.moves]
          exact fun _ member => nomatch member
        · simp at same
      · cases same
  | some flow =>
      obtain ⟨stops, rows, itinerary⟩ := walk_itinerary ran
      have traced : movesOf last.trace = rows := itinerary.traced
      refine ⟨traced ▸ itinerary.trail, fun row member => ?_, fun closed goes => ?_,
        fun closed outcome lost => ?_⟩
      · rw [traced] at member
        obtain ⟨_, about, along, edge, joined, starts, ends⟩ := itinerary.recounted row member
        exact ⟨about, along, flow, along ▸ stored, edge, joined, starts, ends⟩
      · cases present : flow.node? session.currentNode with
        | none =>
            have lost : decision = .terminate .failed "node_not_found" := itinerary.lost_of_absent present
            rw [lost] at goes
            cases goes
        | some node =>
            have here : (flow.node? session.currentNode).isSome = true := by rw [present]; rfl
            exact ⟨flow, stored, (itinerary.inside (closed stored).targets here).2⟩
      · cases present : flow.node? session.currentNode with
        | none => exact ⟨flow, stored, present⟩
        | some node =>
            have here : (flow.node? session.currentNode).isSome = true := by rw [present]; rfl
            exact absurd lost ((itinerary.inside (closed stored).targets here).1 outcome)

/-! ### Storing and logging a decision -/

theorem Writes.of_updated {given stored : Session} {expected : Int} {stamp : Stamp} {later : Store}
    (writes : Writes session decision last given)
    (wrote : store.Updated given expected stamp stored later) :
    Writes session decision last stored := by
  rw [wrote.row]
  exact ⟨writes.id, writes.home, writes.node, writes.waits, writes.ends⟩

/-- A decision is stored in the row of its session, and its own row of the log tells of no move. -/
theorem commit_stores (ready : store.Runnable id session) (decision : Decision) (last : Progress) :
    Ensures (succeeds fun commit later => commit.row.kind ≠ .transition ∧
        ∃ row, later.getSession id = some row ∧ Writes session decision last row)
      (commit session decision last) store := by
  have stands {middle later : Store} {given stored : Session} {expected : Int} {stamp : Stamp}
      (writes : Writes session decision last given)
      (wrote : middle.Updated given expected stamp stored later) :
      ∃ row, later.getSession id = some row ∧ Writes session decision last row := by
    have called : Store.sessionName given = id :=
      Store.sessionName_of_id (writes.id.trans ready.named)
    exact ⟨stored, by rw [wrote.rows, if_pos called], writes.of_updated wrote⟩
  have finished {outcome : Outcome} {reason : String} (subject : TraceSubject) (now : Stamp)
      (ends : decision.ending? = some (outcome, reason)) :
      Ensures (succeeds fun commit later => commit.row.kind ≠ .transition ∧
          ∃ row, later.getSession id = some row ∧ Writes session decision last row)
        (commit.finish last (placed session last) outcome reason subject now) store := by
    have wrote := @update_ensures store id session ready
      (ended (placed session last) outcome.sessionStatus reason now) rfl rfl session.revision rfl
    refine wrote.andThen fun stored middle known => ?_
    obtain ⟨stamp, wrote⟩ := known
    obtain ⟨row, here, writes⟩ := stands (writes_ended now ends) wrote
    have marked : Ensures (succeeds fun _ later => later.getSession id = some row)
        (Engine.store (.markSessionDelays stored.id)) middle :=
      @Ensures.asks middle (.markSessionDelays stored.id) _ fun _ => here
    refine marked.discard.andThen fun _ later kept => ?_
    obtain ⟨_, kept⟩ := kept
    exact Ensures.done ⟨LogKind.noConfusion, row, kept, writes⟩
  unfold commit
  dsimp only
  refine Ensures.now fun now => ?_
  cases decision with
  | terminate outcome reason => exact finished _ now rfl
  | advance target handle => exact finished _ now rfl
  | awaitInput kind =>
      have wrote := @update_ensures store id session ready
        { placed session last with status := .awaitingInput, resumeAt := none } rfl rfl
        session.revision rfl
      refine wrote.andThen fun stored later known => ?_
      obtain ⟨stamp, wrote⟩ := known
      refine Ensures.done ⟨LogKind.noConfusion, stands ?_ wrote⟩
      refine ⟨rfl, rfl, rfl, fun status waits => ?_, nofun⟩
      cases waits
      exact ⟨rfl, rfl⟩
  | suspend resumeAt =>
      have built : Ensures (succeeds fun job later => later = store ∧ job.session = id)
          (Program.ofExcept (timerJob (placed session last) last.node resumeAt now)) store := by
        apply Ensures.ofExcept
        unfold timerJob
        rw [show (placed session last).id = some id from ready.named]
        exact ⟨rfl, rfl⟩
      refine built.andThen fun job start known => ?_
      obtain ⟨rfl, own⟩ := known
      refine (saveJob_ensures ready own).andThen fun _ middle known => ?_
      have wrote := @update_ensures middle id session known.2
        { placed session last with status := .awaitingTimer, resumeAt := some resumeAt } rfl rfl
        session.revision rfl
      refine wrote.andThen fun stored later known => ?_
      obtain ⟨stamp, wrote⟩ := known
      refine Ensures.done ⟨LogKind.noConfusion, stands ?_ wrote⟩
      refine ⟨rfl, rfl, rfl, fun status waits => ?_, nofun⟩
      cases waits
      exact ⟨rfl, rfl⟩

theorem commit_keepsLogs (session : Session) (decision : Decision) (last : Progress)
    (store : Store) :
    Ensures (fun _ later => later.logs = store.logs) (commit session decision last) store := by
  have plain := (commit_plain session decision last []).keeps
  have concludes := (@commit_makes session decision last).keeps []
  refine Ensures.of_keeps (plain.both concludes).keeps rfl fun past middle time request reply later
    same asked answers => ?_
  rcases answers.effect with still | ⟨call, stamp, rfl, changed⟩
  · rw [still]
    exact same
  · have reads : call.writesLogs = false := by
      cases call with
      | saveLogs => cases asked.1
      | deleteLogs => exact asked.2.elim
      | _ => rfl
    rw [changed]
    exact (Store.answer_logs reads stamp middle).trans same

/-- A trace is added to the log, and nothing else is written. -/
theorem flush_adds (rows : List LogEntry) (store : Store) :
    Ensures (succeeds fun _ later => store.SameRows later ∧ store.SameFlows later ∧
        ∃ added, later.logs = store.logs ++ added ∧
          added.map LogEntry.unnamed = rows.map LogEntry.unnamed) (Engine.flush rows) store := by
  unfold Engine.flush
  split
  · next empty =>
      refine Ensures.done ⟨.refl store, .refl store, [], (List.append_nil _).symm, ?_⟩
      rw [List.isEmpty_iff.mp empty]
  · have saved : Ensures (fun _ later => store.SameRows later ∧ store.SameFlows later ∧
        ∃ added, later.logs = store.logs ++ added ∧
          added.map LogEntry.unnamed = rows.map LogEntry.unnamed)
        (Engine.store (.saveLogs rows)) store :=
      @Ensures.asks store (.saveLogs rows) _ fun _ =>
        ⟨Store.saveLogs_sameRows rows store, Store.saveLogs_sameFlows rows store,
          store.saveLogs_logs rows⟩
    exact saved.outcome.andThen fun _ _ known => Ensures.done known

theorem ending_of_lost {row : Session} (writes : Writes session decision last row)
    (lost : row.IsLost) : ∃ outcome, decision = .terminate outcome "node_not_found" := by
  rcases decision.ends_or_waits with ⟨outcome, reason, ends⟩ | ⟨status, waits, going⟩
  · have why := (writes.ends outcome reason ends).2.1
    cases why.symm.trans lost.2
    exact ⟨outcome, Decision.terminate_of_ending ends (by decide)⟩
  · exact absurd ((writes.waits status waits).1.symm.trans lost.1) going

/-- A session was written after a decision, and its moves were added to the log. -/
theorem advances_of_written {row : Session} {later : Store} {added : List LogEntry}
    (ready : store.Runnable id session) (reaches : Reaches store session decision last)
    (sets : Store.Sets id row store later) (writes : Writes session decision last row)
    (flows : store.SameFlows later) (logs : later.logs = store.logs ++ added)
    (moves : (movesOf added).map LogEntry.unnamed = (movesOf last.trace).map LogEntry.unnamed) :
    store.Advances store.Joins later := by
  have along : row.flow = session.flow := congrArg Home.flow writes.home
  have told : ∀ kept ∈ movesOf added,
      kept.session = some id ∧ kept.flow = row.flow ∧ store.Joins kept := by
    intro kept member
    have among : kept.unnamed ∈ (movesOf added).map LogEntry.unnamed := List.mem_map_of_mem member
    rw [moves] at among
    obtain ⟨given, present, same⟩ := List.mem_map.mp among
    obtain ⟨about, home, joins⟩ := reaches.about given present
    have alike := congrArg LogEntry.session same
    have alike' := congrArg LogEntry.flow same
    exact ⟨alike.symm.trans (about.trans ready.named), alike'.symm.trans (home.trans along.symm),
      joins.of_unnamed same.symm⟩
  refine ⟨flows, ⟨fun home => sets.flowOf (fun flow known => ?_) home, added, logs,
    fun kept member => ?_, fun other => ?_⟩, fun {other found} stands => ?_,
    fun closed {other found} stands active => ?_, fun closed {other found} stands lost => ?_⟩
  · exact along.trans (Option.some.inj ((Store.flowOf_stored ready.stands).symm.trans known))
  · obtain ⟨about, home, joins⟩ := told kept member
    exact ⟨joins, id, about, home ▸ Store.flowOf_stored sets.here⟩
  · by_cases same : other = id
    · subst same
      have own : movesOfSession other added = movesOf added :=
        List.filter_eq_self.mpr fun kept member => decide_eq_true (told kept member).1
      rw [own, Store.nodeOf_stored ready.stands, Store.nodeOf_stored sets.here, writes.node]
      exact reaches.trail.of_unnamed moves
    · have none_ : movesOfSession other added = [] := by
        refine List.filter_eq_nil_iff.mpr fun kept member theirs => same ?_
        exact Option.some.inj ((of_decide_eq_true theirs).symm.trans (told kept member).1)
      rw [none_, Store.nodeOf_of_same (sets.others other same)]
      exact .here _
  · rcases sets.found stands with ⟨rfl, rfl⟩ | stood
    · exact Or.inl ⟨session, ready.stands, along.symm⟩
    · exact Or.inl ⟨found, stood, rfl⟩
  · rcases sets.found stands with ⟨rfl, rfl⟩ | stood
    · have goes : decision.ending? = none := by
        cases ends : decision.ending? with
        | none => rfl
        | some ending => exact absurd (active.symm.trans (writes.ends _ _ ends).2.2) (by decide)
      obtain ⟨flow, stored, node⟩ := reaches.inside closed goes
      exact Or.inl ⟨flow, along ▸ stored, writes.node ▸ node⟩
    · exact Or.inr stood
  · rcases sets.found stands with ⟨rfl, rfl⟩ | stood
    · obtain ⟨outcome, decided⟩ := ending_of_lost writes lost
      exact Or.inr ⟨session, ready.stands, ready.active, reaches.lost closed outcome decided⟩
    · exact Or.inl stood

theorem conclude_advances (ready : store.Runnable id session)
    (reaches : Reaches store session decision last) :
    Ensures (fun _ later => store.Advances store.Joins later) (conclude session decision last)
      store := by
  have committed := ((commit_ensures ready decision last).both (commit_stores ready decision last)).both
    ((commit_keepsLogs session decision last store).both
      (Ensures.sameFlows (commit_sparesFlows session decision last [])))
  refine committed.outcome.andThen fun result middle known => ?_
  obtain ⟨⟨settles, stores⟩, logs, flows⟩ := known
  cases result with
  | error fault => exact settles.elim
  | ok commit =>
      obtain ⟨other, row, here, writes⟩ := stores
      have sent := spares_ensures (Effect.dispatchAll_always session.organization
        session.conversation last.effects) middle
      refine sent.andThen fun _ later same => ?_
      subst same
      refine (flush_adds _ later).andThen fun _ final known => Ensures.done ?_
      obtain ⟨rows, flows', added, logs', alike⟩ := known
      have sets : Store.Sets id row store final := ⟨(rows.getSession id).trans here,
        fun other apart => (rows.getSession other).trans (settles.rows other apart)⟩
      refine advances_of_written ready reaches sets writes (flows.trans flows')
        (by rw [logs', logs]) ?_
      have unmoved : movesOf (last.trace ++ [commit.row]) = movesOf last.trace := by
        rw [movesOf_append, movesOf_other other, List.append_nil]
      rw [← movesOf_unnamed, alike, movesOf_unnamed, unmoved]

/-- A run of a session that stands as it was read, on its flow as that is stored. -/
theorem run_advances (ready : store.Runnable id session) (inboundText : Option String)
    (isResume : Bool) {given : Option Flow}
    (stored : ∀ flow, given = some flow → store.getFlow session.flow = some flow) :
    Ensures (fun _ later => store.Advances store.Joins later)
      (run settings session inboundText isResume given) store := by
  unfold run
  extract_lets proceed
  have rest {flow : Option Flow} (fetched : store.getFlow session.flow = flow) :
      Ensures (fun _ later => store.Advances store.Joins later) (proceed flow) store := by
    have reached : Ensures (succeeds fun (decided : Decision × Progress) later => later = store ∧
        Reaches store session decided.1 decided.2)
        (decide settings flow session inboundText isResume) store := by
      have decided := @decide_follows settings session flow inboundText isResume []
      have recorded := Follows.recorded (decide settings flow session inboundText isResume)
      refine (Ensures.of_follows (decided.both recorded) (fun _ _ asked => asked.1)
        Ensures.not_denied_nil).weaken ?_
      rintro (fault | decided) later ⟨same, past, granted, known, ran⟩
      · exact absurd known granted
      · exact ⟨same, decide_reaches fetched ran⟩
    refine reached.andThen fun decided later known => ?_
    obtain ⟨rfl, reaches⟩ := known
    exact conclude_advances ready reaches
  cases given with
  | some flow => exact rest (stored flow rfl)
  | none =>
      have fetched : Ensures (succeeds fun (found : Option Flow) later => later = store ∧
          store.getFlow session.flow = found) (Engine.store (.getFlow session.flow)) store :=
        @look_ensures store (.getFlow session.flow) _ fun _ => ⟨_, rfl, rfl⟩
      refine fetched.andThen fun flow later known => ?_
      obtain ⟨rfl, found⟩ := known
      exact rest found

end Run

end ChatFlow

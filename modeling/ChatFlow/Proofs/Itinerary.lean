import ChatFlow.Proofs.EdgeChoice
import ChatFlow.Proofs.Tour
/-
The itinerary of a walk: the nodes at which it stops, what it comes to, and what its trace tells of its
moves. Every move goes along an edge of the flow and leaves one row; wherever a walk ends, its pointer
stands where the last of these rows ends.
-/

set_option autoImplicit false

namespace ChatFlow

open Program

/-! ### Moves -/

/-- The rows that tell of moves. -/
def movesOf (rows : List LogEntry) : List LogEntry := rows.filter fun row => row.kind = .transition

@[simp]
theorem movesOf_append (earlier later : List LogEntry) :
    movesOf (earlier ++ later) = movesOf earlier ++ movesOf later :=
  List.filter_append ..

theorem movesOf_singleton {row : LogEntry} (move : row.kind = .transition) :
    movesOf [row] = [row] := by
  simp [movesOf, move]

theorem movesOf_other {row : LogEntry} (other : row.kind ≠ .transition) : movesOf [row] = [] := by
  simp [movesOf, other]

/-- A row tells of a move of a session between two nodes, after so many others in its event. -/
structure LogEntry.TellsMove (row : LogEntry) (session : Session) (here there : String)
    (steps : Nat) : Prop where
  kind : row.kind = .transition
  about : row.session = session.id
  along : row.flow = session.flow
  fromNode : row.fromNode = some here
  toNode : row.toNode = some there
  step : row.step = some (steps : Int)

/-- Rows that lead from one node to another, each from where the one before it led. -/
inductive Trail : String → List LogEntry → String → Prop where
  | here (node : String) : Trail node [] node
  | move {here there last : String} {row : LogEntry} {rest : List LogEntry}
      (fromNode : row.fromNode = some here) (toNode : row.toNode = some there)
      (trail : Trail there rest last) : Trail here (row :: rest) last

theorem Trail.append {here there last : String} {rows more : List LogEntry}
    (first : Trail here rows there) (second : Trail there more last) :
    Trail here (rows ++ more) last := by
  induction first with
  | here node => exact second
  | move fromNode toNode _ ih => exact .move fromNode toNode (ih second)

/-! ### Progress -/

/-- A run has added rows to its trace, and has not moved. -/
structure Progress.Stays (progress last : Progress) : Prop where
  node : last.node = progress.node
  steps : last.steps = progress.steps
  moves : movesOf last.trace = movesOf progress.trace

theorem Progress.Stays.trans {progress middle last : Progress} (lower : progress.Stays middle)
    (upper : middle.Stays last) : progress.Stays last :=
  ⟨upper.node.trans lower.node, upper.steps.trans lower.steps, upper.moves.trans lower.moves⟩

theorem Progress.stays_log {row : LogEntry} (other : row.kind ≠ .transition) (progress : Progress) :
    progress.Stays (progress.log row) := by
  refine ⟨rfl, rfl, ?_⟩
  unfold log
  rw [movesOf_append, movesOf_other other, List.append_nil]

/-- A run has moved on, and its trace tells of that in one row. -/
structure Progress.Moves (session : Session) (progress : Progress) (row : LogEntry)
    (next : Progress) : Prop where
  steps : next.steps = progress.steps + 1
  tells : row.TellsMove session progress.node next.node progress.steps
  traced : movesOf next.trace = movesOf progress.trace ++ [row]

theorem Progress.Moves.after {session : Session} {progress middle next : Progress}
    {row : LogEntry} (stays : progress.Stays middle) (moves : Moves session middle row next) :
    Moves session progress row next := by
  refine ⟨stays.steps ▸ moves.steps, ?_, stays.moves ▸ moves.traced⟩
  have tells := moves.tells
  rw [stays.node, stays.steps] at tells
  exact tells

namespace Run

variable {settings : EngineSettings} {flow : Flow} {session : Session}
  {inboundText : Option String} {isResume : Bool} {calls : List (Answered Call.Answer)}

/-! ### Itineraries -/

/-- A walk of at most a number of moves and one more, with the calls made on it: the nodes at which it
stops, the rows that tell of its moves, the decision that it comes to, and how far it has come then.
The clock is read before each stop, and once more where the walk has become too long. -/
inductive Itinerary (settings : EngineSettings) (flow : Flow) (session : Session)
    (inboundText : Option String) : (moves : Nat) → (isResume : Bool) → Progress →
    List (Answered Call.Answer) → List (Stop settings) → List LogEntry → Decision → Progress →
    Prop where
  | lost {moves : Nat} {isResume : Bool} {progress last : Progress} (now : Stamp)
      (absent : flow.node? progress.node = none) (stays : progress.Stays last) :
      Itinerary settings flow session inboundText moves isResume progress [⟨.clock, .ok now⟩] [] []
        (.terminate .failed "node_not_found") last
  | broken {moves : Nat} {isResume : Bool} {progress last : Progress} {now : Stamp}
      {stop : Stop settings} {fault : Fault}
      (stands : stop.Stands flow session inboundText isResume now progress.node progress.bag)
      (failed : stop.outcome = .error fault) (stays : progress.Stays last) :
      Itinerary settings flow session inboundText moves isResume progress
        (⟨.clock, .ok now⟩ :: stop.calls) [stop] [] (.terminate .failed "node_error") last
  | halted {moves : Nat} {isResume : Bool} {progress last : Progress} {now : Stamp}
      {stop : Stop settings} {value : NodeResult}
      (stands : stop.Stands flow session inboundText isResume now progress.node progress.bag)
      (done : stop.outcome = .ok value)
      (decided : ∀ target handle, value.next ≠ .advance target handle)
      (stays : progress.Stays last) :
      Itinerary settings flow session inboundText moves isResume progress
        (⟨.clock, .ok now⟩ :: stop.calls) [stop] [] value.next last
  | strayed {moves : Nat} {isResume : Bool} {progress last : Progress} {now : Stamp}
      {stop : Stop settings} {value : NodeResult} {target : String} {handle : Option String}
      (stands : stop.Stands flow session inboundText isResume now progress.node progress.bag)
      (done : stop.outcome = .ok value) (goes : value.next = .advance target handle)
      (absent : flow.node? target = none) (stays : progress.Stays last) :
      Itinerary settings flow session inboundText moves isResume progress
        (⟨.clock, .ok now⟩ :: stop.calls) [stop] [] (.terminate .failed "node_not_found") last
  | exhausted {isResume : Bool} {progress next last : Progress} {now : Stamp}
      {stop : Stop settings} {value : NodeResult} {row : LogEntry}
      (stands : stop.Stands flow session inboundText isResume now progress.node progress.bag)
      (leads : stop.Leads flow value next.node) (moved : Progress.Moves session progress row next)
      (stays : next.Stays last) (late : Stamp) :
      Itinerary settings flow session inboundText 0 isResume progress
        (⟨.clock, .ok now⟩ :: stop.calls ++ [⟨.clock, .ok late⟩]) [stop] [row]
        (.terminate .failed "flow_loop_detected") last
  | moved {moves : Nat} {isResume : Bool} {progress next last : Progress} {now : Stamp}
      {stop : Stop settings} {value : NodeResult} {row : LogEntry}
      {later : List (Answered Call.Answer)} {stops : List (Stop settings)} {rows : List LogEntry}
      {decision : Decision}
      (stands : stop.Stands flow session inboundText isResume now progress.node progress.bag)
      (leads : stop.Leads flow value next.node) (moved : Progress.Moves session progress row next)
      (rest : Itinerary settings flow session inboundText moves false next later stops rows decision
        last) :
      Itinerary settings flow session inboundText (moves + 1) isResume progress
        (⟨.clock, .ok now⟩ :: stop.calls ++ later) (stop :: stops) (row :: rows) decision last

/-- What a visit has come to: a walk may be over with it, or it has moved on from a stop. -/
inductive Passage (settings : EngineSettings) (flow : Flow) (session : Session)
    (inboundText : Option String) (isResume : Bool) (progress : Progress) :
    List (Answered Call.Answer) → Visit → Prop where
  | final {calls : List (Answered Call.Answer)} {stops : List (Stop settings)} {decision : Decision}
      {last : Progress}
      (itinerary : ∀ moves, Itinerary settings flow session inboundText moves isResume progress calls
        stops [] decision last) :
      Passage settings flow session inboundText isResume progress calls (.halted decision last)
  | onward {now : Stamp} {stop : Stop settings} {value : NodeResult} {row : LogEntry}
      {next : Progress}
      (stands : stop.Stands flow session inboundText isResume now progress.node progress.bag)
      (leads : stop.Leads flow value next.node) (moved : Progress.Moves session progress row next) :
      Passage settings flow session inboundText isResume progress (⟨.clock, .ok now⟩ :: stop.calls)
        (.moved next)

theorem follow_passage {progress shown : Progress} {now : Stamp} {stop : Stop settings}
    {result : NodeResult}
    (stands : stop.Stands flow session inboundText isResume now progress.node progress.bag)
    (done : stop.outcome = .ok result) (stays : progress.Stays shown) :
    Passage settings flow session inboundText isResume progress (⟨.clock, .ok now⟩ :: stop.calls)
      (follow flow (TraceSubject.ofSession session) now result shown) := by
  unfold follow
  dsimp only
  split
  · next target handle goes =>
      split
      · next present =>
          let row := { (TraceSubject.ofSession session).row now .transition with
            fromNode := some shown.node
            toNode := some target
            handle := handle
            step := some shown.steps }
          let collected := { shown with
            bag := result.bag
            effects := shown.effects ++ result.effects }
          have moved : Progress.Moves session shown row
              { (collected.log row) with node := target, steps := shown.steps + 1 } :=
            ⟨rfl, ⟨rfl, rfl, rfl, rfl, rfl, rfl⟩,
              (movesOf_append _ _).trans (congrArg _ (movesOf_singleton rfl))⟩
          exact .onward stands ⟨done, ⟨handle, goes⟩, present⟩ (moved.after stays)
      · next absent =>
          have collected : shown.Stays { shown with
              bag := result.bag
              effects := shown.effects ++ result.effects } := ⟨rfl, rfl, rfl⟩
          refine .final fun _ => .strayed stands done goes (by simpa using absent) ?_
          exact stays.trans (collected.trans (Progress.stays_log LogKind.noConfusion _))
  · next decided => exact .final fun _ => .halted stands done decided (stays.trans ⟨rfl, rfl, rfl⟩)

theorem visit_passage {progress : Progress} {seen : Visit}
    (ran : Transcript (visit settings flow session inboundText isResume progress) calls
      (.ok seen)) :
    Passage settings flow session inboundText isResume progress calls seen := by
  unfold visit at ran
  rcases now_first ran with ⟨now, later, rfl, rest⟩ | ⟨fault, _, same⟩
  · clear ran
    cases found : flow.node? progress.node with
    | none =>
        rw [found] at rest
        obtain ⟨rfl, same⟩ := Transcript.of_done rest
        cases same
        exact .final fun _ => .lost now found (Progress.stays_log LogKind.noConfusion progress)
    | some node =>
        rw [found] at rest
        rcases Transcript.of_bind rest with ⟨outcome, earlier, last, rfl, evaluated, ending⟩ |
          ⟨fault, evaluated, same⟩
        · obtain ⟨inner, same, evaluated⟩ := Transcript.of_outcome evaluated
          cases same
          let stop : Stop settings :=
            ⟨node, contextAt flow session inboundText isResume now progress.node progress.bag,
              earlier, outcome, evaluated⟩
          have stands : stop.Stands flow session inboundText isResume now progress.node
              progress.bag := ⟨found, rfl⟩
          cases outcome with
          | ok value =>
              obtain ⟨rfl, same⟩ := Transcript.of_done ending
              cases same
              rw [List.append_nil]
              exact follow_passage stands rfl (Progress.stays_log LogKind.noConfusion progress)
          | error fault =>
              obtain ⟨rfl, same⟩ := Transcript.of_done ending
              cases same
              rw [List.append_nil]
              refine .final fun _ => .broken stands rfl ?_
              exact (Progress.stays_log LogKind.noConfusion progress).trans
                (Progress.stays_log LogKind.noConfusion _)
        · cases same
  · cases same

theorem walk_itinerary {progress last : Progress} {moves : Nat} {decision : Decision}
    (ran : Transcript (walk settings flow session inboundText moves isResume progress) calls
      (.ok (decision, last))) :
    ∃ stops rows, Itinerary settings flow session inboundText moves isResume progress calls stops rows
      decision last := by
  -- by induction on the moves that are left; each visit adds one stop
  induction moves generalizing isResume progress calls with
  | zero =>
      rcases Transcript.of_bind ran with ⟨seen, earlier, later, rfl, visited, rest⟩ | ⟨_, _, same⟩
      · cases visit_passage visited with
        | final itinerary =>
            obtain ⟨rfl, same⟩ := Transcript.of_done rest
            cases same
            rw [List.append_nil]
            exact ⟨_, _, itinerary 0⟩
        | onward stands leads moved =>
            rcases now_first rest with ⟨now, none_, rfl, ended⟩ | ⟨_, _, same⟩
            · obtain ⟨rfl, same⟩ := Transcript.of_done ended
              cases same
              exact ⟨_, _, .exhausted stands leads moved
                (Progress.stays_log LogKind.noConfusion _) now⟩
            · cases same
      · cases same
  | succ moves ih =>
      rcases Transcript.of_bind ran with ⟨seen, earlier, later, rfl, visited, rest⟩ | ⟨_, _, same⟩
      · cases visit_passage visited with
        | final itinerary =>
            obtain ⟨rfl, same⟩ := Transcript.of_done rest
            cases same
            rw [List.append_nil]
            exact ⟨_, _, itinerary (moves + 1)⟩
        | onward stands leads moved =>
            obtain ⟨stops, rows, itinerary⟩ := ih rest
            exact ⟨_, _, .moved stands leads moved itinerary⟩
      · cases same

/-! ### What an itinerary tells -/

/-- Where a stop leads, an edge of the flow ends. -/
theorem Stop.Stands.edge {stop : Stop settings} {value : NodeResult} {now : Stamp}
    {id target : String} {bag : Variables} {handle : Option String}
    (stands : stop.Stands flow session inboundText isResume now id bag)
    (done : stop.outcome = .ok value) (goes : value.next = .advance target handle) :
    ∃ edge ∈ flow.edges, edge.source = id ∧ edge.target = target := by
  have guided := Evaluation.guided_of_evaluated (done ▸ stop.recorded)
  obtain ⟨edge, leaves, ends⟩ := guided.leads target handle goes
  rw [stands.context] at leaves
  obtain ⟨member, starts⟩ := List.mem_filter.mp leaves
  exact ⟨edge, member, of_decide_eq_true starts, ends⟩

/-- A row tells of a move of a session along an edge of a flow. -/
structure Recounts (session : Session) (flow : Flow) (row : LogEntry) : Prop where
  kind : row.kind = .transition
  about : row.session = session.id
  along : row.flow = session.flow
  edge : ∃ edge ∈ flow.edges, row.fromNode = some edge.source ∧ row.toNode = some edge.target

theorem recounts_of_moves {progress next : Progress} {row : LogEntry} {stop : Stop settings}
    {value : NodeResult} {now : Stamp}
    (stands : stop.Stands flow session inboundText isResume now progress.node progress.bag)
    (leads : stop.Leads flow value next.node) (moved : Progress.Moves session progress row next) :
    Recounts session flow row := by
  obtain ⟨handle, goes⟩ := leads.goes
  obtain ⟨edge, member, starts, ends⟩ := stands.edge leads.done goes
  obtain ⟨kind, about, along, fromNode, toNode, _⟩ := moved.tells
  exact ⟨kind, about, along, edge, member, starts ▸ fromNode, ends ▸ toNode⟩

namespace Itinerary

variable {moves : Nat} {progress last : Progress} {stops : List (Stop settings)}
  {rows : List LogEntry} {decision : Decision}

theorem traced
    (itinerary : Itinerary settings flow session inboundText moves isResume progress calls stops
      rows decision last) : movesOf last.trace = movesOf progress.trace ++ rows := by
  induction itinerary with
  | lost now absent stays => rw [stays.moves, List.append_nil]
  | broken stands failed stays => rw [stays.moves, List.append_nil]
  | halted stands done decided stays => rw [stays.moves, List.append_nil]
  | strayed stands done goes absent stays => rw [stays.moves, List.append_nil]
  | exhausted stands leads moved stays late => rw [stays.moves, moved.traced]
  | moved stands leads moved rest ih => rw [ih, moved.traced, List.append_assoc, List.singleton_append]

/-- The rows of a walk lead from where it begins to where it ends. -/
theorem trail
    (itinerary : Itinerary settings flow session inboundText moves isResume progress calls stops
      rows decision last) : Trail progress.node rows last.node := by
  induction itinerary with
  | lost now absent stays => exact stays.node ▸ .here _
  | broken stands failed stays => exact stays.node ▸ .here _
  | halted stands done decided stays => exact stays.node ▸ .here _
  | strayed stands done goes absent stays => exact stays.node ▸ .here _
  | exhausted stands leads moved stays late =>
      rw [stays.node]
      exact .move moved.tells.fromNode moved.tells.toNode (.here _)
  | moved stands leads moved rest ih => exact .move moved.tells.fromNode moved.tells.toNode ih

theorem recounted
    (itinerary : Itinerary settings flow session inboundText moves isResume progress calls stops
      rows decision last) : ∀ row ∈ rows, Recounts session flow row := by
  induction itinerary with
  | lost | broken | halted | strayed => exact fun _ member => nomatch member
  | exhausted stands leads moved stays late =>
      intro row member
      rw [List.mem_singleton.mp member]
      exact recounts_of_moves stands leads moved
  | moved stands leads moved rest ih =>
      exact List.forall_mem_cons.mpr ⟨recounts_of_moves stands leads moved, ih⟩

/-- A walk that begins where there is no node is over at once. -/
theorem lost_of_absent
    (itinerary : Itinerary settings flow session inboundText moves isResume progress calls stops
      rows decision last) (absent : flow.node? progress.node = none) :
    decision = .terminate .failed "node_not_found" := by
  have unseen {stop : Stop settings} {now : Stamp} {isResume : Bool}
      (stands : stop.Stands flow session inboundText isResume now progress.node progress.bag) :
      False := by
    have here := stands.here
    rw [absent] at here
    cases here
  cases itinerary with
  | lost => rfl
  | broken stands | halted stands | strayed stands | exhausted stands | moved stands =>
      exact (unseen stands).elim

/-- A walk that begins at a node of its flow, all of whose edges end at nodes, is never off the
flow. -/
theorem inside (closed : ∀ edge ∈ flow.edges, (flow.node? edge.target).isSome = true)
    (itinerary : Itinerary settings flow session inboundText moves isResume progress calls stops
      rows decision last) (present : (flow.node? progress.node).isSome = true) :
    (∀ outcome, decision ≠ .terminate outcome "node_not_found") ∧
      (flow.node? last.node).isSome = true := by
  induction itinerary with
  | lost now absent stays =>
      rw [absent] at present
      cases present
  | broken stands failed stays => exact ⟨fun _ => by simp, stays.node ▸ present⟩
  | @halted _ _ _ _ _ stop value stands done decided stays =>
      have guided := Evaluation.guided_of_evaluated (done ▸ stop.recorded)
      exact ⟨guided.known "node_not_found" (by decide), stays.node ▸ present⟩
  | strayed stands done goes absent stays =>
      obtain ⟨edge, member, _, ends⟩ := stands.edge done goes
      have there := closed edge member
      rw [ends, absent] at there
      cases there
  | exhausted stands leads moved stays late => exact ⟨fun _ => by simp, stays.node ▸ leads.present⟩
  | moved stands leads moved rest ih => exact ih leads.present

end Itinerary

/-! ### Nodes that wait -/

/-- The stops of a walk at which no node is resumed. -/
def firstVisits (isResume : Bool) (stops : List (Stop settings)) : List (Stop settings) :=
  if isResume then stops.tail else stops

theorem Stop.Stands.waits {stop : Stop settings} {now : Stamp} {id : String} {bag : Variables}
    {status : SessionStatus}
    (stands : stop.Stands flow session inboundText false now id bag)
    (kind : stop.node.kind.waiting? = some status) :
    (∃ value, stop.outcome = .ok value ∧ value.next.waiting? = some status) ∨
      status = .awaitingTimer ∧ stop.outcome = .error .stampOutOfRange :=
  Evaluation.waits_of_evaluated stop.recorded (by rw [stands.context]; rfl) kind

/-- A session leaves a node that is there to wait only where it resumes it. -/
theorem Stop.Stands.resumes {stop : Stop settings} {value : NodeResult} {now : Stamp}
    {id target : String} {bag : Variables} {handle : Option String}
    (stands : stop.Stands flow session inboundText isResume now id bag)
    (waits : stop.node.kind.waiting?.isSome = true) (done : stop.outcome = .ok value)
    (goes : value.next = .advance target handle) : isResume = true := by
  cases isResume with
  | true => rfl
  | false =>
      obtain ⟨status, kind⟩ := Option.isSome_iff_exists.mp waits
      rcases stands.waits kind with ⟨other, same, stays⟩ | ⟨_, failed⟩
      · cases done.symm.trans same
        rw [goes] at stays
        cases stays
      · cases done.symm.trans failed

theorem Stop.Leads.resumes {stop : Stop settings} {value : NodeResult} {now : Stamp}
    {id target : String} {bag : Variables} (leads : stop.Leads flow value target)
    (stands : stop.Stands flow session inboundText isResume now id bag)
    (waits : stop.node.kind.waiting?.isSome = true) : isResume = true := by
  obtain ⟨handle, goes⟩ := leads.goes
  exact stands.resumes waits leads.done goes

/-- A stop at a node that is there to wait, and is not resumed, is the last one: the session waits
there, or the delay would end beyond all dates. -/
structure Stop.Ends (stop : Stop settings) (stops : List (Stop settings)) (status : SessionStatus)
    (decision : Decision) (last : Progress) : Prop where
  final : stops.getLast? = some stop
  here : last.node = stop.node.id
  decides : decision.waiting? = some status ∨
    status = .awaitingTimer ∧ stop.outcome = .error .stampOutOfRange ∧
      decision = .terminate .failed "node_error"

theorem node?_id {id : String} {node : Node} (found : flow.node? id = some node) : node.id = id := by
  simpa using List.find?_some found

namespace Itinerary

variable {moves : Nat} {progress last : Progress} {stops : List (Stop settings)}
  {rows : List LogEntry} {decision : Decision}

/-- A walk that resumes no node is over at the first node that is there to wait. -/
theorem ends_fresh {status : SessionStatus}
    (itinerary : Itinerary settings flow session inboundText moves isResume progress calls stops
      rows decision last) (fresh : isResume = false) :
    ∀ stop ∈ stops, stop.node.kind.waiting? = some status →
      stop.Ends stops status decision last := by
  induction itinerary with
  | lost now absent stays => exact fun _ member => nomatch member
  | broken stands failed stays =>
      subst fresh
      refine List.forall_mem_singleton.mpr fun kind => ?_
      refine ⟨rfl, stays.node.trans (node?_id stands.here).symm, Or.inr ?_⟩
      rcases stands.waits kind with ⟨value, done, _⟩ | ⟨timed, overflow⟩
      · cases failed.symm.trans done
      · exact ⟨timed, overflow, rfl⟩
  | halted stands done decided stays =>
      subst fresh
      refine List.forall_mem_singleton.mpr fun kind => ?_
      refine ⟨rfl, stays.node.trans (node?_id stands.here).symm, Or.inl ?_⟩
      rcases stands.waits kind with ⟨value, same, waits⟩ | ⟨_, overflow⟩
      · cases done.symm.trans same
        exact waits
      · cases done.symm.trans overflow
  | strayed stands done goes absent stays =>
      subst fresh
      refine List.forall_mem_singleton.mpr fun kind => ?_
      cases stands.resumes (by rw [kind]; rfl) done goes
  | exhausted stands leads moved stays late =>
      subst fresh
      refine List.forall_mem_singleton.mpr fun kind => ?_
      cases leads.resumes stands (by rw [kind]; rfl)
  | moved stands leads moved rest ih =>
      subst fresh
      refine List.forall_mem_cons.mpr ⟨fun kind => ?_, fun stop later kind => ?_⟩
      · cases leads.resumes stands (by rw [kind]; rfl)
      · have ends := ih rfl stop later kind
        refine ⟨?_, ends.here, ends.decides⟩
        rw [List.getLast?_cons, ends.final]
        rfl

/-- Only the node that a walk resumes is left although it is there to wait, or ends the walk in
another way; any other such node ends it. -/
theorem ends {status : SessionStatus}
    (itinerary : Itinerary settings flow session inboundText moves isResume progress calls stops
      rows decision last) :
    ∀ stop ∈ firstVisits isResume stops, stop.node.kind.waiting? = some status →
      stop.Ends stops status decision last := by
  cases resumed : isResume with
  | false => exact itinerary.ends_fresh resumed
  | true =>
      cases itinerary with
      | lost | broken | halted | strayed | exhausted => exact fun _ member => nomatch member
      | moved stands leads moved rest =>
          intro stop later kind
          have ends := rest.ends_fresh rfl stop later kind
          refine ⟨?_, ends.here, ends.decides⟩
          rw [List.getLast?_cons, ends.final]
          rfl

/-- The moves of a walk that lead away from a node that is there to wait: the first one, where the
walk resumes that node. -/
theorem leaves
    (itinerary : Itinerary settings flow session inboundText moves isResume progress calls stops
      rows decision last) :
    ∀ row ∈ rows, ∀ id node, row.fromNode = some id → flow.node? id = some node →
      node.kind.waiting?.isSome = true →
      isResume = true ∧ id = progress.node ∧ row.step = some (progress.steps : Int) ∧
        rows.head? = some row := by
  have first {isResume : Bool} {progress next : Progress} {now : Stamp} {stop : Stop settings}
      {value : NodeResult} {row : LogEntry}
      (stands : stop.Stands flow session inboundText isResume now progress.node progress.bag)
      (leads : stop.Leads flow value next.node)
      (moved : Progress.Moves session progress row next) {id : String} {node : Node}
      (starts : row.fromNode = some id) (found : flow.node? id = some node)
      (waits : node.kind.waiting?.isSome = true) :
      isResume = true ∧ id = progress.node ∧ row.step = some (progress.steps : Int) := by
    cases moved.tells.fromNode.symm.trans starts
    cases stands.here.symm.trans found
    exact ⟨leads.resumes stands waits, rfl, moved.tells.step⟩
  induction itinerary with
  | lost | broken | halted | strayed => exact fun _ member => nomatch member
  | exhausted stands leads moved stays late =>
      refine List.forall_mem_singleton.mpr fun id node starts found waits => ?_
      obtain ⟨resumed, here, step⟩ := first stands leads moved starts found waits
      exact ⟨resumed, here, step, rfl⟩
  | moved stands leads moved rest ih =>
      refine List.forall_mem_cons.mpr ⟨fun id node starts found waits => ?_,
        fun row later id node starts found waits => ?_⟩
      · obtain ⟨resumed, here, step⟩ := first stands leads moved starts found waits
        exact ⟨resumed, here, step, rfl⟩
      · cases (ih row later id node starts found waits).1

end Itinerary

end Run

end ChatFlow

import ChatFlow.Proofs.EdgeChoice
import ChatFlow.Proofs.RunWarrant
import ChatFlow.Proofs.RunCourse
/-
The nodes that a run evaluates, and the calls to the outside that they make. One evaluation makes one
completion or one outbound request at most, and that only at the nodes that are there for it; nothing
else in a run makes any. However a run ends, its nodes are found along its calls, and there are no
more of them than it may make moves, but for one; where it comes to a report its trace tells of all of
them, and it reports that the way has become too long just where it has made one move too many.
-/

set_option autoImplicit false

namespace ChatFlow

open Program

variable {α β : Type} {calls : List (Answered Call.Answer)}

/-! ### Counting calls -/

/-- Whether a call asks a language model or sends a request. -/
def Call.isOutbound : Call → Bool
  | .complete _ | .http _ => true
  | _ => false

/-- How many of some calls ask a language model or send a request. -/
def outboundCalls (calls : List (Answered Call.Answer)) : Nat :=
  calls.countP fun entry => entry.request.isOutbound

@[simp]
theorem outboundCalls_nil : outboundCalls [] = 0 := rfl

@[simp]
theorem outboundCalls_cons (entry : Answered Call.Answer) (later : List (Answered Call.Answer)) :
    outboundCalls (entry :: later) =
      outboundCalls later + if entry.request.isOutbound = true then 1 else 0 :=
  List.countP_cons

@[simp]
theorem outboundCalls_append (earlier later : List (Answered Call.Answer)) :
    outboundCalls (earlier ++ later) = outboundCalls earlier + outboundCalls later :=
  List.countP_append

theorem outboundCalls_reverse : outboundCalls calls.reverse = outboundCalls calls :=
  List.countP_reverse

theorem outboundCalls_eq_zero (inside : ∀ entry ∈ calls, entry.request.isOutbound = false) :
    outboundCalls calls = 0 := by
  apply List.countP_eq_zero.mpr
  intro entry member
  rw [inside entry member]
  exact Bool.false_ne_true

/-- A program that calls outside once at most. -/
structure AsksOnce (program : Engine α) : Prop where
  few : ∀ calls result, Transcript program calls result → outboundCalls calls ≤ 1

/-- A program that does not call outside. -/
abbrev StaysInside (program : Engine α) : Prop :=
  Makes (fun request => request.isOutbound = false) program

theorem StaysInside.none {program : Engine α} (inside : StaysInside program)
    {result : Except Fault α} (ran : Transcript program calls result) : outboundCalls calls = 0 :=
  outboundCalls_eq_zero (inside.all ran)

namespace AsksOnce

theorem inside {program : Engine α} (inside : StaysInside program) : AsksOnce program := by
  constructor
  intro calls result ran
  rw [inside.none ran]
  exact Nat.zero_le 1

theorem perform (request : Call) : AsksOnce (Program.perform request) := by
  constructor
  intro calls result ran
  rw [Transcript.of_perform ran]
  exact List.countP_le_length

/-- A program that calls outside once at most goes on inside. -/
theorem bind {first : Engine β} {next : β → Engine α} (start : AsksOnce first)
    (rest : ∀ value, StaysInside (next value)) : AsksOnce (first >>= next) := by
  constructor
  intro calls result ran
  rcases Transcript.of_bind ran with ⟨value, earlier, later, rfl, began, going⟩ | ⟨_, began, _⟩
  · rw [outboundCalls_append, (rest value).none going]
    exact start.few _ _ began
  · exact start.few _ _ began

theorem after {first : Engine β} {next : β → Engine α} (start : StaysInside first)
    (rest : ∀ value, AsksOnce (next value)) : AsksOnce (first >>= next) := by
  constructor
  intro calls result ran
  rcases Transcript.of_bind ran with ⟨value, earlier, later, rfl, began, going⟩ | ⟨_, began, _⟩
  · rw [outboundCalls_append, start.none began, Nat.zero_add]
    exact (rest value).few _ _ going
  · rw [start.none began]
    exact Nat.zero_le 1

theorem outcome {program : Engine α} (asks : AsksOnce program) :
    AsksOnce (Program.outcome program) := by
  constructor
  intro calls result ran
  obtain ⟨inner, _, ran⟩ := Transcript.of_outcome ran
  exact asks.few _ _ ran

end AsksOnce

/-! ### Evaluations -/

/-- Whether the nodes of a kind are there to call outside. -/
def NodeKind.asksOutside : NodeKind → Bool
  | .aiResponse | .webhook => true
  | _ => false

namespace Evaluation

theorem unlessExternal_asks {program : Engine α} (asks : AsksOnce program) :
    AsksOnce (unlessExternal program) := by
  apply asks.outcome.bind
  intro result
  cases result with
  | ok value => exact .done _
  | error fault =>
      cases fault with
      | external failure => exact .done _
      | _ => exact .fail _

theorem evaluateAi_asks (services : Services) (content : AiContent) (context : NodeContext) :
    AsksOnce (evaluateAi services content context) := by
  unfold evaluateAi
  split
  · exact .inside (.done _)
  · refine AsksOnce.after (historyTurns_makes services rfl) fun turns => ?_
    refine AsksOnce.bind (unlessExternal_asks (.perform _)) fun result => ?_
    cases result with
    | ok reply => exact .ofExcept _
    | error failure => exact .done _

theorem sendRequest_asks (services : Services) (content : WebhookContent) (url : String)
    (context : NodeContext) : AsksOnce (sendRequest services content url context) := by
  unfold sendRequest
  split
  · exact .inside (.done _)
  · split
    · exact .inside (.done _)
    · apply (unlessExternal_asks (.perform _)).bind
      intro result
      cases result with
      | ok answer => dsimp only; split <;> exact .done _
      | error failure => exact .done _

theorem evaluateWebhook_asks (services : Services) (content : WebhookContent)
    (context : NodeContext) : AsksOnce (evaluateWebhook services content context) := by
  unfold evaluateWebhook
  dsimp only
  apply (sendRequest_asks services content _ context).bind
  intro outcome
  cases outcome.result with
  | ok answer =>
      dsimp only
      split
      · exact (Makes.done _).bind fun _ => .done _
      · exact (Makes.ofExcept _).bind fun _ => (Makes.done _).bind fun _ => .done _
  | error error =>
      dsimp only
      split
      · exact .done _
      · split <;> exact .done _

/-- One evaluation calls outside once at most, and that only at a node that is there for it. -/
theorem evaluate_asks {services : Services} {node : Node} {context : NodeContext}
    {result : Except Fault NodeResult} (ran : Transcript (evaluate services node context) calls result) :
    outboundCalls calls ≤ if node.kind.asksOutside = true then 1 else 0 := by
  have inside (stays : StaysInside (evaluate services node context)) :
      outboundCalls calls ≤ if node.kind.asksOutside = true then 1 else 0 := by
    rw [stays.none ran]
    exact Nat.zero_le _
  unfold evaluate at ran inside
  unfold Node.kind at inside ⊢
  cases content : node.content with
  | aiResponse given =>
      rw [content] at ran
      exact (evaluateAi_asks services given context).few _ _ ran
  | webhook given =>
      rw [content] at ran
      exact (evaluateWebhook_asks services given context).few _ _ ran
  | menu given | delay given =>
      rw [content] at inside
      exact inside (.ofExcept _)
  | start given | message given | input given | condition given | action given | transfer given
  | finish given =>
      rw [content] at inside
      exact inside (.done _)

end Evaluation

/-! ### Reports -/

/-- An event was ended since the way had become too long. -/
def EventReport.IsTooLong (report : EventReport) : Prop :=
  report.status = .failed ∧ report.endReason = some "flow_loop_detected"

/-! ### Rows of a trace -/

/-- Whether a row tells of the begin of a node that is there to call outside. -/
def LogEntry.beginsOutside (row : LogEntry) : Bool :=
  row.kind = .nodeStart && (row.nodeType = some (wordOf NodeKind.aiResponse) ||
    row.nodeType = some (wordOf NodeKind.webhook))

theorem LogEntry.beginsOutside_start {row : LogEntry} {kind : NodeKind}
    (begins : row.kind = .nodeStart) (typed : row.nodeType = some (wordOf kind)) :
    row.beginsOutside = kind.asksOutside := by
  unfold beginsOutside
  rw [begins, typed]
  cases kind <;> decide

theorem LogEntry.beginsOutside_other {row : LogEntry} (other : row.kind ≠ .nodeStart) :
    row.beginsOutside = false := by
  simp [beginsOutside, other]

/-- How many rows tell of the begin of a node that is there to call outside. -/
def outsideRows (rows : List LogEntry) : Nat := rows.countP LogEntry.beginsOutside

theorem outsideRows_log (row : LogEntry) (progress : Progress) :
    outsideRows (progress.log row).trace =
      outsideRows progress.trace + if row.beginsOutside = true then 1 else 0 := by
  unfold outsideRows Progress.log
  rw [List.countP_append, List.countP_singleton]

theorem outsideRows_log_other {row : LogEntry} (other : row.kind ≠ .nodeStart)
    (progress : Progress) :
    outsideRows (progress.log row).trace = outsideRows progress.trace := by
  rw [outsideRows_log, LogEntry.beginsOutside_other other]
  rfl

/-- The begins of such nodes that a call tells of, if it keeps a trace. -/
def Call.tracedVisits : Call → Nat
  | .store (.saveLogs rows) => outsideRows rows
  | _ => 0

def tracedVisits : List (Answered Call.Answer) → Nat
  | [] => 0
  | entry :: later => entry.request.tracedVisits + tracedVisits later

theorem tracedVisits_append (earlier later : List (Answered Call.Answer)) :
    tracedVisits (earlier ++ later) = tracedVisits earlier + tracedVisits later := by
  induction earlier with
  | nil => exact (Nat.zero_add _).symm
  | cons entry rest ih => exact (congrArg _ ih).trans (Nat.add_assoc _ _ _).symm

theorem tracedVisits_eq_zero (untraced : ∀ entry ∈ calls, entry.request.tracedVisits = 0) :
    tracedVisits calls = 0 := by
  induction calls with
  | nil => rfl
  | cons entry later ih =>
      have rest := ih fun other member => untraced other (List.mem_cons_of_mem _ member)
      unfold tracedVisits
      rw [rest, untraced entry List.mem_cons_self]

/-- Whether a call neither goes outside nor keeps a trace. -/
def Call.isPlain : Call → Bool
  | .complete _ | .http _ | .store (.saveLogs _) => false
  | _ => true

theorem Call.isPlain_inside {request : Call} (plain : request.isPlain = true) :
    request.isOutbound = false ∧ request.tracedVisits = 0 := by
  cases request with
  | store request =>
      cases request with
      | saveLogs rows => cases plain
      | _ => exact ⟨rfl, rfl⟩
  | clock | history | deliver | sleep => exact ⟨rfl, rfl⟩
  | complete | http => cases plain

namespace Run

variable {settings : EngineSettings} {flow : Flow} {session : Session}
  {inboundText : Option String} {isResume : Bool}

/-! ### Stops -/

/-- A node that was evaluated on the way of a run, with the calls that its evaluation has made. -/
structure Stop (settings : EngineSettings) where
  node : Node
  context : NodeContext
  calls : List (Answered Call.Answer)
  outcome : Except Fault NodeResult
  recorded : Transcript (Evaluation.evaluate settings.services node context) calls outcome

/-- How many of some stops are at nodes that are there to call outside. -/
def outsideVisits (stops : List (Stop settings)) : Nat :=
  stops.countP fun stop => stop.node.kind.asksOutside

/-- The outbound calls that were made at some stops. -/
def askedAt : List (Stop settings) → Nat
  | [] => 0
  | stop :: rest => outboundCalls stop.calls + askedAt rest

theorem Stop.few (stop : Stop settings) :
    outboundCalls stop.calls ≤ if stop.node.kind.asksOutside = true then 1 else 0 :=
  Evaluation.evaluate_asks stop.recorded

theorem outsideVisits_cons (stop : Stop settings) (stops : List (Stop settings)) :
    outsideVisits (stop :: stops) =
      outsideVisits stops + if stop.node.kind.asksOutside = true then 1 else 0 :=
  List.countP_cons

theorem outsideVisits_singleton (stop : Stop settings) :
    outsideVisits [stop] = if stop.node.kind.asksOutside = true then 1 else 0 :=
  List.countP_singleton

theorem askedAt_le (stops : List (Stop settings)) : askedAt stops ≤ outsideVisits stops := by
  induction stops with
  | nil => exact Nat.le_refl 0
  | cons stop rest ih =>
      rw [outsideVisits_cons, Nat.add_comm]
      exact Nat.add_le_add stop.few ih

/-- A stop is at the node of an identifier, and the node was evaluated with some variables. -/
structure Stop.Stands (stop : Stop settings) (flow : Flow) (session : Session)
    (inboundText : Option String) (isResume : Bool) (now : Stamp) (id : String) (bag : Variables) :
    Prop where
  here : flow.node? id = some stop.node
  context : stop.context = contextAt flow session inboundText isResume now id bag

/-- A way ends with a stop: its evaluation has failed, or does not lead on to a node of the flow. -/
def Stop.Halts (stop : Stop settings) (flow : Flow) : Prop :=
  ∀ value target handle, stop.outcome = .ok value → value.next = .advance target handle →
    flow.node? target = none

/-- The evaluation at a stop leads on to a node of the flow. -/
structure Stop.Leads (stop : Stop settings) (flow : Flow) (value : NodeResult) (target : String) :
    Prop where
  done : stop.outcome = .ok value
  goes : ∃ handle, value.next = .advance target handle
  present : (flow.node? target).isSome = true

/-- The stops on a way through a flow from a node on, with the calls made on it. The clock is read
before each stop, and once more where the way has become too long. -/
inductive Tour (settings : EngineSettings) (flow : Flow) (session : Session)
    (inboundText : Option String) : (isResume : Bool) → (id : String) → Variables →
    List (Answered Call.Answer) → List (Stop settings) → Prop where
  | unclocked {isResume : Bool} {id : String} {bag : Variables} (fault : Fault) :
      Tour settings flow session inboundText isResume id bag [⟨.clock, .error fault⟩] []
  | lost {isResume : Bool} {id : String} {bag : Variables} (now : Stamp)
      (absent : flow.node? id = none) :
      Tour settings flow session inboundText isResume id bag [⟨.clock, .ok now⟩] []
  | ended {isResume : Bool} {id : String} {bag : Variables} {now : Stamp} {stop : Stop settings}
      (stands : stop.Stands flow session inboundText isResume now id bag) (halts : stop.Halts flow) :
      Tour settings flow session inboundText isResume id bag (⟨.clock, .ok now⟩ :: stop.calls) [stop]
  | exhausted {isResume : Bool} {id target : String} {bag : Variables} {now : Stamp}
      {stop : Stop settings} {value : NodeResult}
      (stands : stop.Stands flow session inboundText isResume now id bag)
      (leads : stop.Leads flow value target) (reading : Except Fault Stamp) :
      Tour settings flow session inboundText isResume id bag
        (⟨.clock, .ok now⟩ :: stop.calls ++ [⟨.clock, reading⟩]) [stop]
  | moved {isResume : Bool} {id target : String} {bag : Variables} {now : Stamp}
      {stop : Stop settings} {value : NodeResult} {later : List (Answered Call.Answer)}
      {stops : List (Stop settings)}
      (stands : stop.Stands flow session inboundText isResume now id bag)
      (leads : stop.Leads flow value target)
      (rest : Tour settings flow session inboundText false target value.bag later stops) :
      Tour settings flow session inboundText isResume id bag
        (⟨.clock, .ok now⟩ :: stop.calls ++ later) (stop :: stops)

/-- All outbound calls on a way are made at its stops. -/
theorem Tour.asked {id : String} {bag : Variables} {stops : List (Stop settings)}
    (tour : Tour settings flow session inboundText isResume id bag calls stops) :
    outboundCalls calls = askedAt stops := by
  induction tour with
  | unclocked | lost => rfl
  | ended | exhausted => simp [askedAt, Call.isOutbound]
  | moved stands leads rest ih => simp [askedAt, ih, Call.isOutbound]

/-! ### Visits -/

/-- What is decided where a walk has become too long. -/
def tooLong : Decision := .terminate .failed "flow_loop_detected"

/-- What a visit has come to, with the node that it has stopped at, if any. -/
inductive Stopped (settings : EngineSettings) (flow : Flow) (session : Session)
    (inboundText : Option String) (isResume : Bool) (progress : Progress) :
    List (Answered Call.Answer) → List (Stop settings) → Except Fault Visit → Prop where
  | unclocked (fault : Fault) :
      Stopped settings flow session inboundText isResume progress [⟨.clock, .error fault⟩] []
        (.error fault)
  | lost {decision : Decision} {last : Progress} (now : Stamp)
      (absent : flow.node? progress.node = none) (other : decision ≠ tooLong)
      (still : last.steps = progress.steps) :
      Stopped settings flow session inboundText isResume progress [⟨.clock, .ok now⟩] []
        (.ok (.halted decision last))
  | halted {now : Stamp} {stop : Stop settings} {decision : Decision} {last : Progress}
      (stands : stop.Stands flow session inboundText isResume now progress.node progress.bag)
      (halts : stop.Halts flow) (other : decision ≠ tooLong) (still : last.steps = progress.steps) :
      Stopped settings flow session inboundText isResume progress (⟨.clock, .ok now⟩ :: stop.calls)
        [stop] (.ok (.halted decision last))
  | moved {now : Stamp} {stop : Stop settings} {value : NodeResult} {next : Progress}
      (stands : stop.Stands flow session inboundText isResume now progress.node progress.bag)
      (leads : stop.Leads flow value next.node) (bag : next.bag = value.bag)
      (onward : next.steps = progress.steps + 1) :
      Stopped settings flow session inboundText isResume progress (⟨.clock, .ok now⟩ :: stop.calls)
        [stop] (.ok (.moved next))

/-- The way that a visit ends does not tell of another begin. -/
theorem follow_traced (flow : Flow) (subject : TraceSubject) (now : Stamp) (result : NodeResult)
    (progress : Progress) :
    outsideRows (follow flow subject now result progress).progress.trace =
      outsideRows progress.trace := by
  unfold follow
  dsimp only
  split
  · split
    · exact outsideRows_log_other LogKind.noConfusion _
    · exact outsideRows_log_other LogKind.noConfusion _
  · rfl

theorem follow_stopped {progress shown : Progress} {now : Stamp} {stop : Stop settings}
    {result : NodeResult}
    (stands : stop.Stands flow session inboundText isResume now progress.node progress.bag)
    (done : stop.outcome = .ok result) (still : shown.steps = progress.steps)
    (subject : TraceSubject) :
    Stopped settings flow session inboundText isResume progress (⟨.clock, .ok now⟩ :: stop.calls)
      [stop] (.ok (follow flow subject now result shown)) := by
  unfold follow
  dsimp only
  split
  · next target handle goes =>
      split
      · next present =>
          exact .moved stands ⟨done, ⟨handle, goes⟩, present⟩ rfl (congrArg (· + 1) still)
      · next absent =>
          refine .halted stands (fun value other _ same leads => ?_) (by simp [tooLong]) still
          cases done.symm.trans same
          cases goes.symm.trans leads
          exact Option.not_isSome_iff_eq_none.mp absent
  · next stays =>
      have guided := Evaluation.guided_of_evaluated (done ▸ stop.recorded)
      refine .halted stands (fun value target handle same leads => ?_)
        (guided.known "flow_loop_detected" (by decide) .failed) still
      cases done.symm.trans same
      exact absurd leads (stays target handle)

/-- The trace of a visit tells of the node that it has stopped at. -/
theorem visit_stopped {progress : Progress} {result : Except Fault Visit}
    (ran : Transcript (visit settings flow session inboundText isResume progress) calls result) :
    ∃ stops, Stopped settings flow session inboundText isResume progress calls stops result ∧
      ∀ seen, result = .ok seen →
        outsideRows seen.progress.trace = outsideRows progress.trace + outsideVisits stops := by
  unfold visit at ran
  rcases now_first ran with ⟨now, later, rfl, rest⟩ | ⟨fault, rfl, rfl⟩
  · clear ran
    cases found : flow.node? progress.node with
    | none =>
        rw [found] at rest
        obtain ⟨rfl, rfl⟩ := Transcript.of_done rest
        refine ⟨[], .lost now found (by simp [tooLong]) rfl, fun seen same => ?_⟩
        cases same
        exact outsideRows_log_other LogKind.noConfusion _
    | some node =>
        rw [found] at rest
        rcases Transcript.of_bind rest with ⟨outcome, earlier, last, rfl, evaluated, ending⟩ |
          ⟨fault, evaluated, _⟩
        · obtain ⟨inner, same, evaluated⟩ := Transcript.of_outcome evaluated
          cases same
          let stop : Stop settings :=
            ⟨node, contextAt flow session inboundText isResume now progress.node progress.bag,
              earlier, outcome, evaluated⟩
          have stands : stop.Stands flow session inboundText isResume now progress.node
              progress.bag := ⟨found, rfl⟩
          have begun (row : LogEntry) (begins : row.kind = .nodeStart)
              (typed : row.nodeType = some (wordOf node.kind)) :
              outsideRows (progress.log row).trace =
                outsideRows progress.trace + outsideVisits [stop] := by
            rw [outsideRows_log, LogEntry.beginsOutside_start begins typed, outsideVisits_singleton]
          cases outcome with
          | ok value =>
              obtain ⟨rfl, rfl⟩ := Transcript.of_done ending
              rw [List.append_nil]
              refine ⟨[stop], follow_stopped stands rfl (by rfl) _, fun seen same => ?_⟩
              cases same
              exact (follow_traced _ _ _ _ _).trans (begun _ rfl rfl)
          | error fault =>
              obtain ⟨rfl, rfl⟩ := Transcript.of_done ending
              rw [List.append_nil]
              have halts : stop.Halts flow := fun _ _ _ done => nomatch done
              refine ⟨[stop], .halted stands halts (by simp [tooLong]) rfl, fun seen same => ?_⟩
              cases same
              exact (outsideRows_log_other LogKind.noConfusion _).trans (begun _ rfl rfl)
        · obtain ⟨_, same, _⟩ := Transcript.of_outcome evaluated
          cases same
  · exact ⟨[], .unclocked fault, fun seen same => nomatch same⟩

/-! ### Walks -/

/-- A walk of at most a number of moves makes one more where it becomes too long, and only there; it has
made a stop before each of its moves then. -/
structure Paces (moves : Nat) (progress : Progress) (decision : Decision) (last : Progress)
    (stops : List (Stop settings)) : Prop where
  few : last.steps ≤ progress.steps + moves + 1
  exhausts : last.steps = progress.steps + moves + 1 ↔ decision = tooLong
  all : decision = tooLong → stops.length = moves + 1

/-- A walk that is over with a visit is not too long. -/
theorem paces_of_still {moves : Nat} {progress last : Progress} {decision : Decision}
    {stops : List (Stop settings)} (other : decision ≠ tooLong)
    (still : last.steps = progress.steps) : Paces moves progress decision last stops := by
  refine ⟨by omega, ⟨fun far => by omega, fun long => absurd long other⟩, fun long => ?_⟩
  exact absurd long other

theorem Paces.onward {moves : Nat} {progress next last : Progress} {decision : Decision}
    {stops : List (Stop settings)} (paces : Paces moves next decision last stops)
    (onward : next.steps = progress.steps + 1) (stop : Stop settings) :
    Paces (moves + 1) progress decision last (stop :: stops) := by
  have few := paces.few
  have exhausts := paces.exhausts
  have same : progress.steps + (moves + 1) + 1 = next.steps + moves + 1 := by omega
  refine ⟨by omega, same ▸ exhausts, fun long => ?_⟩
  rw [List.length_cons, paces.all long]

theorem Stopped.tour {progress : Progress} {stops : List (Stop settings)}
    {result : Except Fault Visit}
    (stopped : Stopped settings flow session inboundText isResume progress calls stops result)
    (still : ∀ next, result ≠ .ok (.moved next)) :
    Tour settings flow session inboundText isResume progress.node progress.bag calls stops := by
  cases stopped with
  | unclocked fault => exact .unclocked fault
  | lost now absent => exact .lost now absent
  | halted stands halts => exact .ended stands halts
  | moved => exact absurd rfl (still _)

theorem Stopped.few {progress : Progress} {stops : List (Stop settings)}
    {result : Except Fault Visit}
    (stopped : Stopped settings flow session inboundText isResume progress calls stops result) :
    stops.length ≤ 1 := by
  cases stopped with
  | unclocked | lost => exact Nat.zero_le 1
  | halted | moved => exact Nat.le_refl 1

theorem Stopped.paces {progress last : Progress} {decision : Decision} {stops : List (Stop settings)}
    (stopped : Stopped settings flow session inboundText isResume progress calls stops
      (.ok (.halted decision last))) (moves : Nat) : Paces moves progress decision last stops := by
  cases stopped with
  | lost now absent other still => exact paces_of_still other still
  | halted stands halts other still => exact paces_of_still other still

/-- A walk has gone along some stops, and its trace tells of all of them. -/
structure Walked (settings : EngineSettings) (flow : Flow) (session : Session)
    (inboundText : Option String) (moves : Nat) (isResume : Bool) (progress : Progress)
    (calls : List (Answered Call.Answer)) (result : Except Fault (Decision × Progress))
    (stops : List (Stop settings)) : Prop where
  tour : Tour settings flow session inboundText isResume progress.node progress.bag calls stops
  few : stops.length ≤ moves + 1
  traced : ∀ decision last, result = .ok (decision, last) →
    outsideRows last.trace = outsideRows progress.trace + outsideVisits stops
  paces : ∀ decision last, result = .ok (decision, last) → Paces moves progress decision last stops

/-- A walk is over with its first visit, or has moved on from a first stop. -/
theorem walk_first {progress : Progress} {next : Progress → Engine (Decision × Progress)}
    {result : Except Fault (Decision × Progress)} (moves : Nat)
    (ran : Transcript (do
      match ← visit settings flow session inboundText isResume progress with
      | .halted decision last => return (decision, last)
      | .moved last => next last) calls result) :
    (∃ stops, Walked settings flow session inboundText moves isResume progress calls result stops) ∨
    ∃ (now : Stamp) (stop : Stop settings) (value : NodeResult) (last : Progress)
      (later : List (Answered Call.Answer)),
      calls = ⟨.clock, .ok now⟩ :: stop.calls ++ later ∧
      stop.Stands flow session inboundText isResume now progress.node progress.bag ∧
      stop.Leads flow value last.node ∧ last.bag = value.bag ∧
      last.steps = progress.steps + 1 ∧
      outsideRows last.trace = outsideRows progress.trace + outsideVisits [stop] ∧
      Transcript (next last) later result := by
  rcases Transcript.of_bind ran with ⟨seen, earlier, later, rfl, visited, rest⟩ |
    ⟨fault, visited, rfl⟩
  · obtain ⟨stops, stopped, traced⟩ := visit_stopped visited
    have traced := traced seen rfl
    have few : stops.length ≤ moves + 1 := Nat.le_trans stopped.few (Nat.le_add_left 1 moves)
    cases seen with
    | halted decision last =>
        obtain ⟨rfl, rfl⟩ := Transcript.of_done rest
        rw [List.append_nil]
        refine Or.inl ⟨stops, stopped.tour fun next => nofun, few, fun _ _ same => ?_,
          fun _ _ same => ?_⟩
        · cases same
          exact traced
        · cases same
          exact stopped.paces moves
    | moved last =>
        cases stopped with
        | moved stands leads bag onward =>
            exact Or.inr ⟨_, _, _, last, later, rfl, stands, leads, bag, onward, traced, rest⟩
  · obtain ⟨stops, stopped, _⟩ := visit_stopped visited
    exact Or.inl ⟨stops, stopped.tour fun next => nofun,
      Nat.le_trans stopped.few (Nat.le_add_left 1 moves), fun _ _ same => (nomatch same),
      fun _ _ same => nomatch same⟩

theorem walk_walked {progress : Progress} {moves : Nat}
    {result : Except Fault (Decision × Progress)}
    (ran : Transcript (walk settings flow session inboundText moves isResume progress) calls
      result) :
    ∃ stops, Walked settings flow session inboundText moves isResume progress calls result stops := by
  -- by induction on the moves that are left; each visit adds one stop
  induction moves generalizing isResume progress calls with
  | zero =>
      rcases walk_first 0 ran with
        finished | ⟨_, stop, _, last, _, rfl, stands, leads, bag, onward, traced, rest⟩
      · exact finished
      · rcases now_first rest with ⟨now, none_, rfl, ended⟩ | ⟨fault, rfl, rfl⟩
        · obtain ⟨rfl, rfl⟩ := Transcript.of_done ended
          refine ⟨[stop], .exhausted stands leads (.ok now), Nat.le_refl 1, fun _ _ same => ?_,
            fun _ _ same => ?_⟩
          · cases same
            exact (outsideRows_log_other LogKind.noConfusion _).trans traced
          · cases same
            exact ⟨Nat.le_of_eq onward, ⟨fun _ => rfl, fun _ => onward⟩, fun _ => rfl⟩
        · exact ⟨[stop], .exhausted stands leads (.error fault), Nat.le_refl 1,
            fun _ _ same => (nomatch same), fun _ _ same => nomatch same⟩
  | succ moves ih =>
      rcases walk_first (moves + 1) ran with
        finished | ⟨_, stop, _, last, _, rfl, stands, leads, bag, onward, traced, rest⟩
      · exact finished
      · obtain ⟨stops, tour, few, more, paces⟩ := ih rest
        rw [bag] at tour
        refine ⟨stop :: stops, .moved stands leads tour, Nat.succ_le_succ few,
          fun decision final same => ?_, fun decision final same => ?_⟩
        · rw [more decision final same, traced, outsideVisits_singleton, outsideVisits_cons,
            Nat.add_comm (outsideVisits stops), ← Nat.add_assoc]
        · exact (paces decision final same).onward onward stop

/-! ### Runs -/

/-- What was stored after a decision tells of the steps that were made and of the decision, and its row
of no begin. -/
structure Commit.Ends (stored : Commit) (decision : Decision) (progress : Progress) : Prop where
  steps : stored.report.steps = progress.steps
  long : stored.report.IsTooLong ↔ decision = tooLong
  row : stored.row.kind ≠ .nodeStart

theorem committed_ends {outcome : Outcome} {reason : String} {progress : Progress} {stored : Session}
    {subject : TraceSubject} {now : Stamp} {message : String} :
    (committed progress stored subject now outcome.eventStatus .flowComplete message
      (some reason)).Ends (.terminate outcome reason) progress := by
  refine ⟨rfl, ?_, LogKind.noConfusion⟩
  cases outcome <;>
    simp [EventReport.IsTooLong, committed, EventReport.ofSession, tooLong, Outcome.eventStatus]

/-- A session that waits has not been ended. -/
theorem ends_of_waiting {decision : Decision} {progress : Progress} {stored : Session}
    {subject : TraceSubject} {now : Stamp} {status : EventStatus} {kind : LogKind} {message : String}
    {reason : Option String} (waits : status ≠ .failed) (goes : decision ≠ tooLong)
    (row : kind ≠ .nodeStart) :
    (committed progress stored subject now status kind message reason).Ends decision progress :=
  ⟨rfl, ⟨fun long => absurd long.1 waits, fun long => absurd long goes⟩, row⟩

/-- A decision is stored by plain calls. -/
theorem commit_plain (session : Session) (decision : Decision) (progress : Progress)
    (past : EnginePast) :
    Follows (fun _ request => request.isPlain = true)
      (whenDone fun _ stored => stored.Ends decision progress) (commit session decision progress)
      past := by
  have stores {request : StoreCall} (plain : (Call.store request).isPlain = true)
      (past : EnginePast) :
      Keeps (fun _ request => request.isPlain = true) (Engine.store request) past :=
    (Makes.store plain).keeps past
  have finished (outcome : Outcome) (reason : String) (subject : TraceSubject) (now : Stamp)
      (past : EnginePast) :
      Follows (fun _ request => request.isPlain = true)
        (whenDone fun _ stored => stored.Ends (.terminate outcome reason) progress)
        (commit.finish progress (placed session progress) outcome reason subject now) past := by
    refine (stores rfl past).andThen fun stored later _ _ => ?_
    refine (stores rfl later).discarded.andThen fun _ last _ _ => ?_
    exact Follows.done committed_ends
  have clock : Makes (fun request => request.isPlain = true) Engine.now := .now rfl
  unfold commit
  refine (clock.keeps past).andThen fun now later _ _ => ?_
  cases decision with
  | terminate outcome reason => exact finished outcome reason _ now later
  | advance target handle =>
      refine (finished .failed "" _ now later).weakenDone fun stored last _ ends => ?_
      exact ⟨ends.steps, ends.long.trans (by simp [tooLong]), ends.row⟩
  | awaitInput kind =>
      refine (stores rfl later).andThen fun stored last _ _ => ?_
      exact Follows.done (ends_of_waiting nofun nofun nofun)
  | suspend resumeAt =>
      refine ((Makes.ofExcept _).keeps later).andThen fun job middle _ _ => ?_
      refine (stores rfl middle).discarded.andThen fun _ saved _ _ => ?_
      refine (stores rfl saved).andThen fun stored last _ _ => ?_
      exact Follows.done (ends_of_waiting nofun nofun nofun)

/-- What a run does with its decision. -/
def conclude (session : Session) (decision : Decision) (progress : Progress) :
    Engine EventReport := do
  match ← Program.outcome (commit session decision progress) with
  | .error fault => do
      Engine.flush progress.trace
      .fail fault
  | .ok stored => do
      Effect.dispatchAll session.organization session.conversation progress.effects
      Engine.flush (progress.trace ++ [stored.row])
      return stored.report

theorem dispatchAll_plain (organization conversation : String) (effects : List Effect) :
    Makes (fun request => request.isPlain = true)
      (Effect.dispatchAll organization conversation effects) :=
  Effect.dispatchAll_makes (fun _ => rfl) (fun _ => rfl) organization conversation effects

theorem conclude_inside (decision : Decision) (progress : Progress) :
    StaysInside (conclude session decision progress) := by
  have plainly {α : Type} {program : Engine α}
      (plain : Makes (fun request => request.isPlain = true) program) : StaysInside program :=
    plain.mono fun _ fits => (Call.isPlain_inside fits).1
  have committing : Makes (fun request => request.isPlain = true)
      (commit session decision progress) :=
    ⟨fun past => (commit_plain session decision progress past).keeps⟩
  refine Makes.bind (plainly committing).outcome fun outcome => ?_
  cases outcome with
  | error fault => exact .bind (Engine.flush_makes rfl) fun _ => .fail _
  | ok stored =>
      refine Makes.bind (plainly (dispatchAll_plain _ _ _)) fun _ => ?_
      exact .bind (Engine.flush_makes rfl) fun _ => .done _

theorem tracedVisits_of_plain (plain : ∀ entry ∈ calls, entry.request.isPlain = true) :
    tracedVisits calls = 0 :=
  tracedVisits_eq_zero fun entry member => (Call.isPlain_inside (plain entry member)).2

theorem flush_traced {rows : List LogEntry} {result : Except Fault Unit}
    (ran : Transcript (Engine.flush rows) calls result) : tracedVisits calls = outsideRows rows := by
  unfold Engine.flush at ran
  split at ran
  · next empty =>
      obtain ⟨rfl, _⟩ := Transcript.of_done ran
      rw [List.isEmpty_iff.mp empty]
      rfl
  · obtain ⟨inner, tried, _⟩ := Transcript.of_discard ran
    obtain ⟨reply, _, told⟩ := Transcript.of_outcome tried
    rw [store_calls told]
    exact Nat.add_zero _

/-- A run that comes to a report has kept its trace, and reports what was stored. -/
theorem conclude_traced {decision : Decision} {progress : Progress} {report : EventReport}
    (ran : Transcript (conclude session decision progress) calls (.ok report)) :
    tracedVisits calls = outsideRows progress.trace ∧ report.steps = progress.steps ∧
      (report.IsTooLong ↔ decision = tooLong) := by
  rcases Transcript.of_bind ran with ⟨outcome, saving, later, rfl, tried, rest⟩ | ⟨_, _, same⟩
  · obtain ⟨inner, same, saved⟩ := Transcript.of_outcome tried
    cases same
    have committed := commit_plain session decision progress []
    have untraced := tracedVisits_of_plain (saved.allowed committed)
    have ends := saved.follows committed
    cases outcome with
    | error fault =>
        rcases Transcript.of_bind rest with ⟨_, _, _, _, _, failed⟩ | ⟨_, _, same⟩
        · cases (Transcript.of_fail failed).2
        · cases same
    | ok stored =>
        rcases Transcript.of_bind rest with ⟨_, sending, last, rfl, sent, logging⟩ | ⟨_, _, same⟩
        · have silent := tracedVisits_of_plain ((dispatchAll_plain _ _ _).all sent)
          rcases Transcript.of_bind logging with ⟨_, logs, done, rfl, logged, ended⟩ | ⟨_, _, same⟩
          · obtain ⟨rfl, same⟩ := Transcript.of_done ended
            cases same
            have kept : tracedVisits logs = outsideRows progress.trace :=
              (flush_traced logged).trans (outsideRows_log_other ends.row progress)
            rw [tracedVisits_append, tracedVisits_append, untraced, silent, List.append_nil, kept]
            exact ⟨(Nat.zero_add _).trans (Nat.zero_add _), ends.steps, ends.long⟩
          · cases same
        · cases same
  · cases same

/-- The stops of a run, with its calls: along its flow if that was given to it or found, and none
else. After its last stop a run goes outside no more. -/
inductive Tours (settings : EngineSettings) (session : Session) (inboundText : Option String)
    (isResume : Bool) : Option Flow → List (Answered Call.Answer) → List (Stop settings) → Prop where
  | given {flow : Flow} {walking after : List (Answered Call.Answer)} {stops : List (Stop settings)}
      (tour : Tour settings flow session inboundText isResume session.currentNode session.bag walking
        stops) (inside : outboundCalls after = 0) :
      Tours settings session inboundText isResume (some flow) (walking ++ after) stops
  | read {flow : Flow} {calls : List (Answered Call.Answer)} {stops : List (Stop settings)}
      (tours : Tours settings session inboundText isResume (some flow) calls stops) :
      Tours settings session inboundText isResume none
        (⟨.store (.getFlow session.flow), .ok (some flow)⟩ :: calls) stops
  | gone {after : List (Answered Call.Answer)} (inside : outboundCalls after = 0) :
      Tours settings session inboundText isResume none
        (⟨.store (.getFlow session.flow), .ok none⟩ :: after) []
  | unread (fault : Fault) :
      Tours settings session inboundText isResume none
        [⟨.store (.getFlow session.flow), .error fault⟩] []

/-- All outbound calls of a run are made at its stops. -/
theorem Tours.asked {given : Option Flow} {stops : List (Stop settings)}
    (tours : Tours settings session inboundText isResume given calls stops) :
    outboundCalls calls = askedAt stops := by
  induction tours with
  | given tour inside => rw [outboundCalls_append, tour.asked, inside, Nat.add_zero]
  | read tours ih => exact ih
  | gone inside => exact inside
  | unread fault => rfl

theorem decide_untraced {flow : Option Flow} {result : Except Fault (Decision × Progress)}
    (ran : Transcript (decide settings flow session inboundText isResume) calls result) :
    tracedVisits calls = 0 := by
  have apart := ran.allowed (decide_follows flow inboundText isResume [])
  refine tracedVisits_eq_zero fun entry member => ?_
  have outside := apart entry member
  cases asked : entry.request with
  | store request =>
      rw [asked] at outside
      cases outside
  | clock | complete | http | history | deliver | sleep => rfl

/-- What an attempt reports of its way: it tells of one step more than the limit at most, and of that
many just where the way has become too long. Then a stop was made before each of these steps. -/
structure Tells (settings : EngineSettings) (calls : List (Answered Call.Answer))
    (stops : List (Stop settings)) (report : EventReport) : Prop where
  traced : tracedVisits calls = outsideVisits stops
  few : report.steps ≤ settings.maxSteps.toNat + 1
  exhausts : report.steps = settings.maxSteps.toNat + 1 ↔ report.IsTooLong
  all : report.IsTooLong → stops.length = settings.maxSteps.toNat + 1

theorem Tells.after {stops : List (Stop settings)} {report : EventReport}
    {looking : List (Answered Call.Answer)} (tells : Tells settings calls stops report)
    (untraced : tracedVisits looking = 0) : Tells settings (looking ++ calls) stops report :=
  ⟨by rw [tracedVisits_append, untraced, Nat.zero_add, tells.traced], tells.few, tells.exhausts,
    tells.all⟩

/-- A run with its flow goes along its stops, of which there are not too many, and where it comes to a
report it tells of all of them. -/
theorem proceed_tours {flow : Flow} {result : Except Fault EventReport}
    (ran : Transcript (do
      let decided ← decide settings (some flow) session inboundText isResume
      conclude session decided.1 decided.2) calls result) :
    ∃ stops, Tours settings session inboundText isResume (some flow) calls stops ∧
      stops.length ≤ settings.maxSteps.toNat + 1 ∧
      ∀ report, result = .ok report → Tells settings calls stops report := by
  rcases Transcript.of_bind ran with ⟨⟨decision, last⟩, walking, after, rfl, decided, rest⟩ |
    ⟨fault, decided, rfl⟩
  · obtain ⟨stops, walked⟩ := walk_walked decided
    refine ⟨stops, .given walked.tour ((conclude_inside decision last).none rest), walked.few,
      fun report same => ?_⟩
    subst same
    obtain ⟨traced, steps, long⟩ := conclude_traced rest
    have paces := walked.paces decision last rfl
    have limit : (Progress.ofSession session).steps + settings.maxSteps.toNat + 1 =
        settings.maxSteps.toNat + 1 := by rw [show (Progress.ofSession session).steps = 0 from rfl,
          Nat.zero_add]
    refine Tells.after ⟨?_, ?_, ?_, fun reported => paces.all (long.mp reported)⟩
      (decide_untraced decided)
    · rw [traced, walked.traced _ _ rfl]
      exact Nat.zero_add _
    · rw [steps]
      exact limit ▸ paces.few
    · rw [steps, long]
      exact limit ▸ paces.exhausts
  · obtain ⟨stops, walked⟩ := walk_walked decided
    refine ⟨stops, ?_, walked.few, fun report same => nomatch same⟩
    rw [← List.append_nil calls]
    exact .given walked.tour rfl

/-- A run whose flow is gone goes nowhere. -/
theorem proceed_astray {result : Except Fault EventReport}
    (ran : Transcript (do
      let decided ← decide settings none session inboundText isResume
      conclude session decided.1 decided.2) calls result) :
    outboundCalls calls = 0 ∧ ∀ report, result = .ok report → Tells settings calls [] report := by
  have deciding : StaysInside (decide settings none session inboundText isResume) :=
    .bind (.now rfl) fun _ => .done _
  refine ⟨StaysInside.none (.bind deciding fun _ => conclude_inside _ _) ran, fun report same => ?_⟩
  subst same
  rcases Transcript.of_bind ran with ⟨decided, walking, after, rfl, began, rest⟩ | ⟨_, _, same⟩
  · obtain ⟨traced, steps, long⟩ := conclude_traced rest
    rcases now_first began with ⟨now, later, rfl, done⟩ | ⟨_, _, same⟩
    · obtain ⟨rfl, same⟩ := Transcript.of_done done
      cases same
      have other : ¬report.IsTooLong := fun reported => by
        simpa [tooLong] using long.mp reported
      have still : report.steps = 0 := steps
      refine Tells.after ⟨traced, by omega, ⟨fun far => by omega, fun reported => ?_⟩,
        fun reported => absurd reported other⟩ rfl
      exact absurd reported other
    · cases same
  · cases same

theorem run_tours {given : Option Flow} {result : Except Fault EventReport}
    (ran : Transcript (run settings session inboundText isResume given) calls result) :
    ∃ stops, Tours settings session inboundText isResume given calls stops ∧
      stops.length ≤ settings.maxSteps.toNat + 1 ∧
      ∀ report, result = .ok report → Tells settings calls stops report := by
  cases given with
  | some flow => exact proceed_tours ran
  | none =>
      rcases store_first ran with ⟨flow, later, rfl, rest⟩ | ⟨fault, rfl, rfl⟩
      · cases flow with
        | some flow =>
            obtain ⟨stops, tours, few, tells⟩ := proceed_tours rest
            exact ⟨stops, .read tours, few, fun report same => @Tells.after _ _ _ _ [_]
              (tells report same) rfl⟩
        | none =>
            obtain ⟨inside, tells⟩ := proceed_astray rest
            exact ⟨[], .gone inside, Nat.zero_le _, fun report same => @Tells.after _ _ _ _ [_]
              (tells report same) rfl⟩
      · exact ⟨[], .unread fault, Nat.zero_le _, fun report same => nomatch same⟩

end Run

end ChatFlow

import ChatFlow.Proofs.OutboundCalls
import ChatFlow.Proofs.Openings
/-
Nodes that are there to wait. A session leaves a menu, an input or a delay only by the first move of a
run that resumes it there; wherever else a run comes to such a node, the event is over and the session
waits.
-/

set_option autoImplicit false

namespace ChatFlow

open Program EnginePast

variable {settings : EngineSettings} {calls : List (Answered Call.Answer)} {run : Event.Ran settings}
  {outcome : Except Fault EventReport} {stimulus : Stimulus}

/-! ### What a run logs and reports -/

namespace Event

/-- What was logged of a run tells of some moves and of no others. -/
def Ran.Logs (run : Ran settings) (moves : List LogEntry) : Prop :=
  ∀ rows reply, ⟨.store (.saveLogs rows), reply⟩ ∈ run.calls → movesOf rows = moves

theorem movesOf_concluded {session : Session} {decision : Decision} {progress : Progress}
    (asked : ∀ entry ∈ calls, Run.Concludes session decision progress entry.request) :
    ∀ rows reply, ⟨.store (.saveLogs rows), reply⟩ ∈ calls → movesOf rows = movesOf progress.trace :=
  fun _ _ member => asked _ member

theorem Journey.logs (journey : Journey run) : run.Logs journey.rows := by
  intro rows reply member
  rw [journey.calls] at member
  rcases List.mem_append.mp member with before | concluding
  · rcases List.mem_append.mp before with fetching | walking
    · obtain ⟨_, same⟩ := journey.fetched.reads _ fetching
      cases same
    · cases journey.outside _ walking
  · rw [movesOf_concluded journey.asked rows reply concluding, journey.itinerary.traced]
    rfl

theorem Astray.logs (astray : Astray run) : run.Logs [] := by
  intro rows reply member
  cases astray with
  | unread calls result =>
      rw [calls] at member
      cases List.mem_singleton.mp member
  | unclocked result refused reading =>
      rcases reading _ member with spared | ⟨_, same⟩
      · cases spared
      · cases same
  | gone calls fetched stays concluded asked =>
      rw [calls] at member
      rcases List.mem_append.mp member with fetching | later
      · obtain ⟨_, same⟩ := fetched.reads _ fetching
        cases same
      · rcases List.mem_cons.mp later with head | concluding
        · cases head
        · exact (movesOf_concluded asked rows reply concluding).trans stays.moves

/-- A session that was written is answered as it was written, but for its revision and the time. -/
theorem written_answered (truthful : Truthful calls) {written stored : Session} {expected : Int}
    (told : ⟨.store (.updateSession written expected), .ok stored⟩ ∈ calls) :
    ∃ stamp, stored = { written with revision := expected + 1, updatedAt := stamp } := by
  obtain ⟨store, stamp, _, answered⟩ := truthful.store told
  exact ⟨stamp, (Store.updateSession_ok (Store.changing_ok answered)).row⟩

/-- A run in which nothing is refused reports on its session as it was written. -/
theorem Journey.reports (journey : Journey run) (truthful : Truthful run.calls)
    (granted : ¬Denied run.calls) (named : run.session.id.isSome = true) :
    ∃ report, run.result = .ok report ∧ report.session = run.session.id ∧
      report.node = some journey.last.node ∧
      (∀ status, journey.decision.waiting? = some status → status.reported? = some report.status) ∧
      ∀ outcome reason, journey.decision.ending? = some (outcome, reason) →
        report.status = outcome.eventStatus ∧ report.endReason = some reason := by
  have within : journey.concluding ⊆ run.calls := fun entry member => by
    rw [journey.calls]
    exact List.mem_append_right _ member
  generalize same : run.result = result
  have concluded := journey.concluded
  rw [same] at concluded
  cases concluded with
  | denied blame =>
      rcases blame with ⟨request, fault, member, kind⟩ | unnamed
      · exact absurd ⟨request, fault, within member, kind⟩ granted
      · rw [unnamed] at named
        cases named
  | @reported written stored report told writes answers =>
      obtain ⟨stamp, row⟩ := written_answered truthful (within told)
      refine ⟨report, rfl, ?_, ?_, answers.waits, answers.ends⟩
      · rw [answers.session, row]
        exact writes.id
      · rw [answers.node, row, ← writes.node]

/-! ### Passing nodes that wait -/

/-- An event has ended with its session at a node, where it waits or would wait beyond all dates. -/
def EndsWaiting (outcome : Except Fault EventReport) (session : Option String) (node : String)
    (status : SessionStatus) : Prop :=
  ∃ report, outcome = .ok report ∧ report.session = session ∧ report.node = some node ∧
    (status.reported? = some report.status ∨
      status = .awaitingTimer ∧ report.status = .failed ∧ report.endReason = some "node_error")

/-- A run leaves a node that is there to wait only by its first move, where it resumes its session;
where it comes to such a node otherwise, its event is over. -/
structure Journey.PassesOnce (journey : Journey run) (outcome : Except Fault EventReport) :
    Prop where
  leaves : ∀ row ∈ journey.rows, ∀ id node, row.fromNode = some id →
    journey.flow.node? id = some node → node.kind.waiting?.isSome = true →
    run.isResume = true ∧ id = run.session.currentNode ∧ row.step = some 0 ∧
      journey.rows.head? = some row
  waits : ∀ stop ∈ Run.firstVisits run.isResume journey.stops, ∀ status,
    stop.node.kind.waiting? = some status →
    journey.stops.getLast? = some stop ∧
      (¬Denied run.calls → EndsWaiting outcome run.session.id stop.node.id status)

theorem Journey.passesOnce (journey : Journey run) (truthful : Truthful run.calls)
    (named : run.session.id.isSome = true)
    (ends : ∀ report, run.result = .ok report → outcome = .ok report) :
    journey.PassesOnce outcome where
  leaves := journey.itinerary.leaves
  waits stop first status kind := by
    have finish := journey.itinerary.ends stop first kind
    refine ⟨finish.final, fun granted => ?_⟩
    obtain ⟨report, result, about, here, waits, fails⟩ := journey.reports truthful granted named
    refine ⟨report, ends report result, about, by rw [here, finish.here], ?_⟩
    rcases finish.decides with decided | ⟨timed, _, decided⟩
    · exact Or.inl (waits status decided)
    · exact Or.inr ⟨timed, fails .failed "node_error" (by rw [decided]; rfl)⟩

end Event

namespace Workplace

open Event

variable {ι : Type} {place : Workplace ι}

/-- Whatever the flow is, whatever the contact says and whatever others do meanwhile, one reply
passes at most one node that waits. Every move that is logged in an event, be it the event of a worker
or one of those that its poll makes, is one of a run which the event has opened; such a run leaves a
node that waits only by its first move, resuming a session parked there, and at any other visit to
such a node the event ends with the session waiting there. -/
theorem replies_pass_one_waiting_node (reached : Reached place) (index : ι)
    (within : calls <:+: (place.worker index).past.reverse)
    (ran : Transcript (stimulus.program settings) calls outcome) :
    ∃ runs : List (Ran settings), Comprises calls outcome runs ∧
      ∀ run ∈ runs, run.OpenedBy stimulus calls ∧
        (Astray run ∧ run.Logs [] ∨
          ∃ journey : Journey run, run.Logs journey.rows ∧ journey.PassesOnce outcome) := by
  have truthful : Truthful calls :=
    (reached.truthful index).of_subset fun _ member => List.mem_reverse.mp (within.subset member)
  obtain ⟨runs, comprises, opened⟩ := comprised ran
  refine ⟨runs, comprises, fun run member => ⟨opened run member, ?_⟩⟩
  rcases run.sets_out with ⟨⟨journey⟩⟩ | astray
  · refine Or.inr ⟨journey, journey.logs, journey.passesOnce ?_ ?_ (comprises.ends run member)⟩
    · exact truthful.of_subset (comprises.within run member).subset
    · exact (opened run member).named truthful
  · exact Or.inl ⟨astray, astray.logs⟩

/-! ### A question that leads back to itself -/

def echoFlow : Flow :=
  let asking := shortFlow "org_1" question
  { asking with
    edges := asking.edges ++ [⟨"e2", "node", "node", none, none, none, "default", []⟩] }

/-- The contact has been asked. -/
def echoed : Workplace Unit :=
  (stocked echoFlow).play sampleSettings
    (.order () (.start "org_1" ⟨"flow-0001", "conv_1", none, none, none, []⟩ none) :: answered 10)

def echoing : Workplace Unit := echoed.beginning (Stimulus.inbound contactReply).operation

/-- The contact has replied, and is asked the same again. -/
def echoedAgain : Workplace Unit := echoing.play sampleSettings (answered 9)

theorem replies_pass_one_waiting_node_echoed :
    (∃ report, (echoedAgain.worker ()).Ends (.ok (some report)) ∧ report.status = .waitingInput ∧
      report.node = some "node" ∧ ∃ runs : List (Ran sampleSettings),
        Comprises (echoedAgain.worker ()).past.reverse (.ok report) runs ∧
        ∀ run ∈ runs, run.OpenedBy (.inbound contactReply) (echoedAgain.worker ()).past.reverse ∧
          (Astray run ∧ run.Logs [] ∨
            ∃ journey : Journey run, run.Logs journey.rows ∧ journey.PassesOnce (.ok report))) ∧
    (movesOf echoedAgain.scene.store.logs).map
      (fun row => (row.fromNode, row.toNode, row.step)) =
      [(some "start", some "node", some 0), (some "node", some "node", some 0)] := by
  have idle : decide (echoed.worker ()).IsIdle = true := by decide +kernel
  have begun := beginning_begun echoed idle (Stimulus.inbound contactReply).operation
  have reached : Reached echoed := (stocked_reached _).play _
  have onward : Onward () echoing echoedAgain :=
    Alone.onward (alone_play sampleSettings echoing () Nothing 9)
  have known : (reportOf? (echoedAgain.worker ())).any (fun report =>
      report.status = .waitingInput && report.node = some "node") = true := by decide +kernel
  obtain ⟨report, done, known⟩ := (Option.any_eq_true _ _).mp known
  rw [Bool.and_eq_true, decide_eq_true_eq, decide_eq_true_eq] at known
  have ends : (echoedAgain.worker ()).Ends (.ok (some report)) := by
    rw [reportOf?_eq_some done]
    rfl
  have ran := begun.transcript onward ends
  rw [Stimulus.operation_program] at ran
  obtain ⟨outcome, same, ran⟩ := Operation.reporting_calls ran
  refine ⟨⟨report, ends, known.1, known.2, ?_⟩, by decide +kernel⟩
  cases outcome with
  | error fault => cases same
  | ok found =>
      cases same
      exact replies_pass_one_waiting_node (reached.steps (.head begun.step onward.steps)) ()
        (List.infix_refl _) ran

end Workplace

end ChatFlow

import ChatFlow.Proofs.DrawnFlows
import ChatFlow.Proofs.GraphCheck
import ChatFlow.Proofs.Trails
import ChatFlow.Proofs.WaitingNodes
/-
Flows that no session walks off. What passes the check begins at a node, and all its edges lead to
nodes; so a run that begins at a node of such a flow comes to nodes only, and writes and reports no
session as lost.
-/

set_option autoImplicit false

namespace ChatFlow

open Program EnginePast

/-! ### What the check lets through -/

namespace Flow

variable {flow : Flow}

theorem node?_isSome {id : String} (member : id ∈ flow.nodes.map Node.id) :
    (flow.node? id).isSome = true := by
  obtain ⟨node, present, named⟩ := List.mem_map.mp member
  unfold node?
  rw [List.find?_isSome]
  exact ⟨node, List.mem_reverse.mpr present, decide_eq_true named⟩

theorem isClosed_of_sound (sound : flow.graph.problem? = none) : flow.IsClosed := by
  have formed := Graph.problem?_eq_none.mp sound
  exact ⟨node?_isSome formed.starts.mem, fun edge member =>
    node?_isSome (formed.joins edge member).target⟩

/-- The nodes and edges of a flow are what the check has put out, as it is read back. -/
def IsChecked (flow : Flow) : Prop :=
  ∃ nodes edges graph, Graph.ofValues nodes edges = .ok graph ∧
    (Codec.list Node.codec).decode (.arr graph.nodeValues) = .accepted flow.nodes ∧
    (Codec.list Edge.codec).decode (.arr graph.edgeValues) = .accepted flow.edges

theorem IsChecked.isClosed (checked : flow.IsChecked) : flow.IsClosed := by
  obtain ⟨nodes, edges, graph, passes, readNodes, readEdges⟩ := checked
  have settled := Graph.plain_settled passes
  obtain ⟨nodes', edges'⟩ := settled.decoded
  rw [readNodes] at nodes'
  rw [readEdges] at edges'
  have same : flow.graph = graph.plain := by
    rw [Flow.graph, Checked.accepted.inj nodes', Checked.accepted.inj edges']
  exact isClosed_of_sound (same ▸ settled.sound)

end Flow

/-- A graph that is read as it is from how it is written has been put out by the check. -/
theorem Flow.isChecked_of_settled {flow : Flow} (settled : flow.graph.Settled) : flow.IsChecked := by
  have same := settled.plain
  have decoded := Graph.Settled.decoded (same.symm ▸ settled)
  rw [same] at decoded
  exact ⟨_, _, flow.graph, settled.checked, decoded⟩

theorem Store.Drawn.isClosed {store : Store} (drawn : store.Drawn) : store.IsClosed :=
  fun found => Flow.isClosed_of_sound (drawn.flows found).sound

/-! ### Runs on closed flows -/

/-- A report says that a session has ended because it came to no node. -/
def EventReport.IsLost (report : EventReport) : Prop :=
  report.status = .failed ∧ report.endReason = some "node_not_found"

theorem Run.lost_of_answers {decision : Decision} {stored : Session} {report : EventReport}
    (answers : Answers decision stored report) (lost : report.IsLost) :
    ∃ outcome, decision = .terminate outcome "node_not_found" := by
  rcases decision.ends_or_waits with ⟨outcome, reason, ends⟩ | ⟨status, waits, going⟩
  · have why := (answers.ends outcome reason ends).2
    cases why.symm.trans lost.2
    exact ⟨outcome, Decision.terminate_of_ending ends (by decide)⟩
  · have reported := answers.waits status waits
    rw [lost.1] at reported
    cases status <;> first | exact absurd rfl going | cases reported

namespace Event

variable {settings : EngineSettings} {run : Ran settings} {flow : Flow}

/-- A run has a flow: it was given it, or was told of it by the store. -/
def Ran.Has (run : Ran settings) (flow : Flow) : Prop :=
  run.given = some flow ∨
    run.given = none ∧ ⟨.store (.getFlow run.session.flow), .ok (some flow)⟩ ∈ run.calls

/-- A run stays on a flow. Its session stands at a node, and is written and reported of at nodes only
and never as lost. -/
structure Ran.StaysOn (run : Ran settings) (flow : Flow) : Prop where
  stands : (flow.node? run.session.currentNode).isSome = true
  writes : ∀ row expected reply, ⟨.store (.updateSession row expected), reply⟩ ∈ run.calls →
    (flow.node? row.currentNode).isSome = true ∧ ¬row.IsLost
  reports : ∀ report, run.result = .ok report →
    (∃ node, report.node = some node ∧ (flow.node? node).isSome = true) ∧ ¬report.IsLost

/-- A run that concludes at a node, and not because it came to none. -/
theorem staysOn_of_concluded {decision : Decision} {last : Progress}
    {before concluding : List (Answered Call.Answer)} (truthful : Truthful run.calls)
    (calls : run.calls = before ++ concluding)
    (spares : ∀ entry ∈ before, ∀ row expected, entry.request ≠ .store (.updateSession row expected))
    (concluded : Run.Concluded run.session decision last concluding run.result)
    (asked : ∀ entry ∈ concluding, Run.Concludes run.session decision last entry.request)
    (never : ∀ outcome, decision ≠ .terminate outcome "node_not_found")
    (present : (flow.node? last.node).isSome = true)
    (stands : (flow.node? run.session.currentNode).isSome = true) : run.StaysOn flow := by
  have within : concluding ⊆ run.calls := calls ▸ List.subset_append_right before concluding
  refine ⟨stands, fun row expected reply member => ?_, fun report result => ?_⟩
  · rw [calls] at member
    rcases List.mem_append.mp member with earlier | later
    · exact absurd rfl (spares _ earlier row expected)
    · obtain ⟨_, writes⟩ := asked _ later
      refine ⟨by rw [writes.node, present], fun lost => ?_⟩
      obtain ⟨outcome, same⟩ := Run.ending_of_lost writes lost
      exact never outcome same
  · rw [result] at concluded
    cases concluded with
    | @reported written stored _ told writes answers =>
        obtain ⟨stamp, row⟩ := written_answered truthful (within told)
        have here : stored.currentNode = last.node := by
          rw [row]
          exact writes.node
        refine ⟨⟨last.node, here ▸ answers.node, present⟩, fun lost => ?_⟩
        obtain ⟨outcome, same⟩ := Run.lost_of_answers answers lost
        exact never outcome same

/-- The flow of a journey is the one that its run has. -/
theorem Journey.flow_eq (journey : Journey run) (has : run.Has flow) : journey.flow = flow := by
  have fetched := journey.fetched
  rcases has with given | ⟨given, told⟩
  · rw [given] at fetched
    generalize journey.flow = found, journey.fetching = calls at fetched
    cases fetched
    rfl
  · rw [journey.calls] at told
    rcases List.mem_append.mp told with before | concluding
    · rcases List.mem_append.mp before with fetching | walking
      · rw [given] at fetched
        generalize journey.flow = found, journey.fetching = calls at fetched fetching
        cases fetched
        cases List.mem_singleton.mp fetching
        rfl
      · cases journey.outside _ walking
    · exact (journey.asked _ concluding).elim

theorem Journey.has (journey : Journey run) : run.Has journey.flow := by
  have fetched := journey.fetched
  cases given : run.given with
  | some flow =>
      rw [given] at fetched
      generalize journey.flow = found, journey.fetching = calls at fetched
      cases fetched
      exact Or.inl given
  | none =>
      rw [given] at fetched
      refine Or.inr ⟨given, ?_⟩
      rw [journey.calls]
      refine List.mem_append_left _ (List.mem_append_left _ ?_)
      generalize journey.flow = found, journey.fetching = calls at fetched
      cases fetched
      exact List.mem_singleton_self _

theorem Journey.staysOn (journey : Journey run) (truthful : Truthful run.calls)
    (closed : journey.flow.IsClosed)
    (stands : (journey.flow.node? run.session.currentNode).isSome = true) :
    run.StaysOn journey.flow := by
  obtain ⟨never, present⟩ := journey.itinerary.inside closed.targets stands
  refine staysOn_of_concluded truthful journey.calls (fun entry member row expected same => ?_)
    journey.concluded journey.asked never present stands
  rcases List.mem_append.mp member with fetching | walking
  · obtain ⟨_, read⟩ := journey.fetched.reads _ fetching
    rw [same] at read
    cases read
  · have outside := journey.outside _ walking
    rw [same] at outside
    cases outside

theorem Astray.staysOn (astray : Astray run) (truthful : Truthful run.calls)
    (stands : (flow.node? run.session.currentNode).isSome = true) : run.StaysOn flow := by
  cases astray with
  | unread calls failed =>
      refine ⟨stands, fun row expected reply member => ?_, fun report result => ?_⟩
      · rw [calls] at member
        cases List.mem_singleton.mp member
      · cases failed.symm.trans result
  | unclocked failed refused reading =>
      refine ⟨stands, fun row expected reply member => ?_, fun report result => ?_⟩
      · rcases reading _ member with spared | ⟨_, same⟩
        · cases spared
        · cases same
      · cases failed.symm.trans result
  | @gone fetching concluding now last calls fetched stays concluded asked =>
      have fresh : run.calls = (fetching ++ [⟨.clock, .ok now⟩]) ++ concluding := by
        rw [calls, List.append_assoc]
        rfl
      refine staysOn_of_concluded truthful fresh (fun entry member row expected same => ?_) concluded
        asked (fun outcome => by simp) (stays.node ▸ stands) stands
      rcases List.mem_append.mp member with reads | clock
      · obtain ⟨_, read⟩ := fetched.reads _ reads
        rw [same] at read
        cases read
      · rw [List.mem_singleton.mp clock] at same
        cases same

/-- A run on a closed flow stays there, if it begins there. -/
theorem Ran.staysOn (truthful : Truthful run.calls) (has : run.Has flow) (closed : flow.IsClosed)
    (stands : (flow.node? run.session.currentNode).isSome = true) : run.StaysOn flow := by
  rcases run.sets_out with ⟨⟨journey⟩⟩ | astray
  · cases journey.flow_eq has
    exact journey.staysOn truthful closed stands
  · exact astray.staysOn truthful stands

end Event

end ChatFlow

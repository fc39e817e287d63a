import ChatFlow.Proofs.ServiceCalls
import ChatFlow.Proofs.Transcript
/-
Where nodes lead. Whatever a node is, it leads along one of the edges that leave it or not at all; and
a node that asks for a reply, or waits, leads nowhere on its first visit.
-/

set_option autoImplicit false

namespace ChatFlow

open Program

namespace Edge

variable {edges : List Edge} {edge : Edge}

theorem mem_of_forHandle? {handle : String} (found : forHandle? handle edges = some edge) :
    edge ∈ edges := by
  unfold forHandle? at found
  rw [Option.orElse_eq_orElse, Option.orElse_eq_or, Option.or_eq_some_iff] at found
  rcases found with leaving | ⟨_, labelled⟩
  · exact List.mem_of_find?_eq_some leaving
  · exact List.mem_of_find?_eq_some labelled

theorem mem_of_select? {handle : Option String} (found : select? handle edges = some edge) :
    edge ∈ edges := by
  unfold select? at found
  rw [Option.orElse_eq_orElse, Option.orElse_eq_or, Option.or_eq_some_iff] at found
  rcases found with chosen | ⟨_, first⟩
  · obtain ⟨given, _, chosen⟩ := Option.bind_eq_some_iff.mp chosen
    exact mem_of_forHandle? chosen
  · exact List.mem_of_head? first

end Edge

/-- The reasons for which a session is ended that no node gives: its flow or a node of it is not there,
a node has failed, or the way has become too long. -/
def NodeResult.outerReasons : List String :=
  ["flow_not_found", "node_not_found", "node_error", "flow_loop_detected"]

/-- A node leads to the end of one of some edges, or nowhere; and where it ends a session, it does so
for a reason of its own. -/
structure NodeResult.Guided (edges : List Edge) (result : NodeResult) : Prop where
  leads : ∀ target handle, result.next = .advance target handle →
    ∃ edge ∈ edges, edge.target = target
  known : ∀ reason ∈ outerReasons, ∀ outcome, result.next ≠ .terminate outcome reason

namespace NodeResult.Guided

variable {edges more : List Edge} {effects : List Effect} {bag : Variables}

theorem mono {result : NodeResult} (guided : result.Guided edges)
    (among : ∀ edge ∈ edges, edge ∈ more) : result.Guided more where
  leads target handle goes := by
    obtain ⟨edge, member, same⟩ := guided.leads target handle goes
    exact ⟨edge, among edge member, same⟩
  known := guided.known

theorem along {edge : Edge} (member : edge ∈ edges) (handle : Option String) :
    Guided edges ⟨effects, .advance edge.target handle, bag⟩ where
  leads target other goes := by
    cases goes
    exact ⟨edge, member, rfl⟩
  known _ _ _ same := nomatch same

theorem terminating {outcome : Outcome} {reason : String} (other : reason ∉ outerReasons) :
    Guided edges ⟨effects, .terminate outcome reason, bag⟩ where
  leads _ _ goes := nomatch goes
  known given outer ending same := by
    cases same
    exact other outer

theorem awaiting (kind : ReplyKind) : Guided edges ⟨effects, .awaitInput kind, bag⟩ where
  leads _ _ goes := nomatch goes
  known _ _ _ same := nomatch same

theorem pausing (resumeAt : Stamp) : Guided edges ⟨effects, .suspend resumeAt, bag⟩ where
  leads _ _ goes := nomatch goes
  known _ _ _ same := nomatch same

end NodeResult.Guided

/-- A node is left by an edge, or ends its flow for want of one. -/
def Decision.LeavesBy (decision : Decision) : Option Edge → Prop
  | some edge => ∃ handle, decision = .advance edge.target handle
  | none => decision = .terminate .completed "no_outgoing_edge"

namespace Evaluation

theorem leaveBy_leaves (edge : Option Edge) (handle : Option String) (bag : Variables)
    (effects : List Effect) : (leaveBy edge handle bag effects).next.LeavesBy edge := by
  cases edge with
  | none => rfl
  | some edge => exact ⟨_, rfl⟩

theorem leaveBy_guided {edges : List Edge} {edge : Option Edge}
    (among : ∀ found, edge = some found → found ∈ edges) (handle : Option String) (bag : Variables)
    (effects : List Effect) : (leaveBy edge handle bag effects).Guided edges := by
  cases edge with
  | none => exact .terminating (by decide)
  | some edge => exact .along (among edge rfl) _

theorem advance_guided (edges : List Edge) (bag : Variables) (effects : List Effect)
    (handle : Option String) : (advance edges bag effects handle).Guided edges :=
  leaveBy_guided (fun _ => Edge.mem_of_select?) _ _ _

theorem advance_withoutError_guided (edges : List Edge) (bag : Variables) (effects : List Effect)
    (handle : Option String) : (advance (Edge.withoutError edges) bag effects handle).Guided edges :=
  (advance_guided _ _ _ _).mono fun _ member => (List.mem_filter.mp member).1

theorem mem_of_firstHandle? {handles : List String} {edges : List Edge} {handle : String}
    {edge : Edge} (found : firstHandle? handles edges = some (handle, edge)) : edge ∈ edges := by
  obtain ⟨_, _, chosen⟩ := List.exists_of_findSome?_eq_some found
  obtain ⟨_, chosen, same⟩ := Option.map_eq_some_iff.mp chosen
  cases same
  exact Edge.mem_of_forHandle? chosen

theorem leaveMenu_guided (index : Nat) (option : MenuOption) (edges : List Edge)
    (bag : Variables) : (leaveMenu index option edges bag).Guided edges := by
  unfold leaveMenu
  dsimp only
  split
  · next found =>
      refine leaveBy_guided (fun edge same => ?_) _ _ _
      cases same
      exact mem_of_firstHandle? found
  · exact (advance_guided _ _ _ _).mono fun _ member => (List.mem_filter.mp member).1

theorem rejectReply_guided (content : MenuContent) (key : String) (before : Int)
    (context : NodeContext) : (rejectReply content key before context).Guided context.edges := by
  unfold rejectReply
  dsimp only
  split
  · split
    · next found => exact .along (mem_of_firstHandle? found) _
    · exact .terminating (by decide)
  · exact .awaiting _

theorem evaluateMenu_guided {node : String} {content : MenuContent} {context : NodeContext}
    {result : NodeResult} (done : evaluateMenu node content context = .ok result) :
    result.Guided context.edges := by
  unfold evaluateMenu at done
  dsimp only at done
  split at done
  · cases done
    exact .awaiting _
  · cases chosen : Reply.matchOption context.inboundText content.options with
    | error fault => rw [chosen] at done; cases done
    | ok option =>
        rw [chosen] at done
        cases option with
        | some option =>
            cases done
            exact leaveMenu_guided _ _ _ _
        | none =>
            cases counted : attemptsSoFar context.bag (attemptsKey node) with
            | error fault => simp only [counted, bind, Except.bind] at done; cases done
            | ok before =>
                simp only [counted, bind, Except.bind] at done
                cases done
                exact rejectReply_guided _ _ _ _

theorem evaluateInput_guided (content : InputContent) (context : NodeContext) :
    (evaluateInput content context).Guided context.edges := by
  unfold evaluateInput
  dsimp only
  split
  · exact .awaiting _
  · split
    · exact advance_guided _ _ _ _
    · split
      · exact advance_guided _ _ _ _
      · exact .awaiting _

theorem evaluateCondition_guided (content : ConditionContent) (context : NodeContext) :
    (evaluateCondition content context).Guided context.edges := by
  unfold evaluateCondition
  dsimp only
  split
  · next found => exact .along (mem_of_firstHandle? found) _
  · exact .terminating (by decide)

theorem evaluateAction_guided (name : Option String) (content : ActionContent)
    (context : NodeContext) : (evaluateAction name content context).Guided context.edges := by
  unfold evaluateAction
  dsimp only
  split
  · exact .terminating (by decide)
  · exact advance_guided _ _ _ _
  · exact advance_guided _ _ _ _

theorem evaluateTransfer_guided (content : TransferContent) (context : NodeContext) :
    (evaluateTransfer content context).Guided context.edges := by
  unfold evaluateTransfer
  dsimp only
  split
  · exact .terminating (by decide)
  · exact advance_guided _ _ _ _

theorem aiFailure_guided (context : NodeContext) : (aiFailure context).Guided context.edges := by
  unfold aiFailure
  split
  · next found => exact .along (Edge.mem_of_forHandle? found) _
  · exact .terminating (by decide)

theorem takeReply_guided {content : AiContent} {reply : Value} {context : NodeContext}
    {result : NodeResult} (done : takeReply content reply context = .ok result) :
    result.Guided context.edges := by
  unfold takeReply at done
  dsimp only at done
  split at done
  · cases done
    exact advance_withoutError_guided _ _ _ _
  · split at done <;> cases done

theorem evaluateDelay_guided {content : DelayContent} {context : NodeContext} {result : NodeResult}
    (done : evaluateDelay content context = .ok result) : result.Guided context.edges := by
  unfold evaluateDelay at done
  dsimp only at done
  split at done
  · cases done
    exact advance_guided _ _ _ _
  · split at done
    · cases done
      exact .pausing _
    · cases done

theorem evaluateAi_guided (services : Services) (content : AiContent) (context : NodeContext) :
    SparesStore (NodeResult.Guided context.edges) (evaluateAi services content context) := by
  unfold evaluateAi
  split
  · exact .done (aiFailure_guided context)
  · have turns := historyTurns_sparesStore services content context.conversation
    refine turns.bind fun turns _ => ?_
    refine (unlessExternal_sparesStore (.perform rfl)).bind fun result _ => ?_
    cases result with
    | ok reply => exact .ofExcept fun _ done => takeReply_guided done
    | error failure => exact .done (aiFailure_guided context)

theorem evaluateWebhook_guided (services : Services) (content : WebhookContent)
    (context : NodeContext) :
    SparesStore (NodeResult.Guided context.edges) (evaluateWebhook services content context) := by
  unfold evaluateWebhook
  dsimp only
  refine (sendRequest_sparesStore services content _ context).bind fun outcome _ => ?_
  cases outcome.result with
  | ok answer =>
      dsimp only
      split
      · exact (SparesStore.value _).bind fun bag _ => .done (advance_withoutError_guided _ _ _ _)
      · exact (SparesStore.given _).bind fun text _ =>
          (SparesStore.value _).bind fun bag _ => .done (advance_withoutError_guided _ _ _ _)
  | error error =>
      dsimp only
      split
      · exact .done (.terminating (by decide))
      · split
        · next found => exact .done (.along (Edge.mem_of_forHandle? found) _)
        · exact .done (advance_withoutError_guided _ _ _ _)

theorem evaluate_guided (services : Services) (node : Node) (context : NodeContext) :
    SparesStore (NodeResult.Guided context.edges) (evaluate services node context) := by
  unfold evaluate
  cases node.content with
  | start content => exact .done (advance_guided _ _ _ _)
  | message content => exact .done (advance_guided _ _ _ _)
  | menu content => exact .ofExcept fun _ done => evaluateMenu_guided done
  | input content => exact .done (evaluateInput_guided content context)
  | condition content => exact .done (evaluateCondition_guided content context)
  | action content => exact .done (evaluateAction_guided node.name content context)
  | transfer content => exact .done (evaluateTransfer_guided content context)
  | aiResponse content => exact evaluateAi_guided services content context
  | delay content => exact .ofExcept fun _ done => evaluateDelay_guided done
  | webhook content => exact evaluateWebhook_guided services content context
  | finish content => exact .done (.terminating (by decide))

/-- Every node that is evaluated leads along an edge that leaves it, whatever it is told. -/
theorem guided_of_evaluated {services : Services} {node : Node} {context : NodeContext}
    {calls : List (Answered Call.Answer)} {result : NodeResult}
    (ran : Transcript (evaluate services node context) calls (.ok result)) :
    result.Guided context.edges :=
  ran.follows ((evaluate_guided services node context).follows [])

end Evaluation

/-! ### First visits -/

/-- How a session waits at nodes of a kind that are there to wait for something. -/
def NodeKind.waiting? : NodeKind → Option SessionStatus
  | .menu | .input => some .awaitingInput
  | .delay => some .awaitingTimer
  | _ => none

/-- How a session waits after a decision, if it does. -/
def Decision.waiting? : Decision → Option SessionStatus
  | .awaitInput _ => some .awaitingInput
  | .suspend _ => some .awaitingTimer
  | _ => none

/-- A node that is there to wait does so when it is not resumed, but for a delay whose end is beyond
all dates. -/
theorem Evaluation.waits_of_evaluated {services : Services} {node : Node} {context : NodeContext}
    {calls : List (Answered Call.Answer)} {outcome : Except Fault NodeResult}
    {status : SessionStatus} (ran : Transcript (evaluate services node context) calls outcome)
    (first : context.isResume = false) (waits : node.kind.waiting? = some status) :
    (∃ value, outcome = .ok value ∧ value.next.waiting? = some status) ∨
      status = .awaitingTimer ∧ outcome = .error .stampOutOfRange := by
  unfold Node.kind at waits
  unfold evaluate at ran
  cases content : node.content with
  | menu content_ =>
      rw [content] at ran waits
      obtain ⟨_, same⟩ := Transcript.of_ofExcept ran
      unfold evaluateMenu at same
      dsimp only at same
      rw [first] at same
      subst same
      exact Or.inl ⟨_, rfl, waits⟩
  | input content_ =>
      rw [content] at ran waits
      obtain ⟨_, same⟩ := Transcript.of_done ran
      unfold evaluateInput at same
      dsimp only at same
      rw [first] at same
      subst same
      exact Or.inl ⟨_, rfl, waits⟩
  | delay content_ =>
      rw [content] at ran waits
      obtain ⟨_, same⟩ := Transcript.of_ofExcept ran
      unfold evaluateDelay at same
      rw [first] at same
      dsimp only at same
      cases due : context.now.addSeconds? content_.totalSeconds with
      | some resumeAt =>
          simp only [due] at same
          subst same
          exact Or.inl ⟨_, rfl, waits⟩
      | none =>
          simp only [due] at same
          cases waits
          exact Or.inr ⟨rfl, same⟩
  | start | message | condition | action | transfer | aiResponse | webhook | finish =>
      rw [content] at waits
      cases waits

end ChatFlow

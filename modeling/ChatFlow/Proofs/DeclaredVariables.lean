import ChatFlow.Proofs.EdgeChoice
import ChatFlow.Proofs.EventRecord
import ChatFlow.Proofs.RunCourse
import ChatFlow.Proofs.RunWarrant
/-
The variables that a node may change. A node names the variables that it writes, and whatever the
services around it answer, it gives back all others as they were, in the order in which they stood. An
evaluation that fails gives back nothing, and the run keeps the variables that it had.
-/

set_option autoImplicit false

namespace ChatFlow

open Program

/-! ### Tables but for some names -/

namespace Table

variable {α : Type} {names : List String} {name : String}

/-- The entries under all other names, in their order. -/
def without (names : List String) (table : Table α) : Table α :=
  table.filter fun entry => !names.contains entry.1

@[simp]
theorem without_nil (table : Table α) : without [] table = table := by
  simp [without]

theorem without_put (among : name ∈ names) (value : α) (table : Table α) :
    without names (put name value table) = without names table := by
  unfold without
  induction table with
  | nil => simp [put, among]
  | cons entry rest ih =>
      obtain ⟨first, old⟩ := entry
      by_cases same : first = name
      · subst first
        simp [put, among]
      · simp only [put, if_neg same, List.filter_cons, ih]

theorem without_remove (among : name ∈ names) (table : Table α) :
    without names (remove name table) = without names table := by
  unfold without remove
  rw [List.filter_filter]
  apply List.filter_congr
  intro entry _
  by_cases same : entry.1 = name
  · simp [same, among]
  · simp [same]

end Table

namespace Evaluation

/-! ### What a node declares -/

/-- A language model has given a reply. -/
def replied (calls : List (Answered Call.Answer)) : Bool :=
  calls.any fun entry =>
    match entry with
    | ⟨.complete _, .ok _⟩ => true
    | _ => false

/-- A request to the outside was answered with success. -/
def succeeded (calls : List (Answered Call.Answer)) : Bool :=
  calls.any fun entry =>
    match entry with
    | ⟨.http _, .ok answer⟩ => HttpAnswer.isOk answer
    | _ => false

/-- The variables that a node may write, after its calls have come to what they did. -/
def declared (node : Node) (calls : List (Answered Call.Answer)) : List String :=
  match node.content with
  | .menu content => attemptsKey node.id :: (given? content.variableName).toList
  | .input content => [content.variableName]
  | .action content =>
      if content.kind = .setVariable then (given? content.variableName).toList else []
  | .aiResponse content =>
      if replied calls then [givenOr content.saveToVariable "resposta_ia"] else []
  | .webhook content => if succeeded calls then (given? content.responseVariable).toList else []
  | .start _ | .message _ | .condition _ | .transfer _ | .delay _ | .finish _ => []

@[simp]
theorem replied_append (calls later : List (Answered Call.Answer)) :
    replied (calls ++ later) = (replied calls || replied later) :=
  List.any_append

@[simp]
theorem succeeded_append (calls later : List (Answered Call.Answer)) :
    succeeded (calls ++ later) = (succeeded calls || succeeded later) :=
  List.any_append

/-! ### What each kind of node gives back -/

/-- But for some names, a bag has the variables of an earlier one, in their order. -/
def KeepsOthers (names : List String) (before after : Variables) : Prop :=
  Table.without names after = Table.without names before

variable {names : List String} {bag : Variables}

@[simp]
theorem leaveBy_bag (edge : Option Edge) (handle : Option String) (bag : Variables)
    (effects : List Effect) : (leaveBy edge handle bag effects).bag = bag := by
  cases edge <;> rfl

@[simp]
theorem advance_bag (edges : List Edge) (bag : Variables) (effects : List Effect)
    (handle : Option String) : (advance edges bag effects handle).bag = bag :=
  leaveBy_bag _ _ _ _

@[simp]
theorem leaveMenu_bag (index : Nat) (option : MenuOption) (edges : List Edge) (bag : Variables) :
    (leaveMenu index option edges bag).bag = bag := by
  unfold leaveMenu
  dsimp only
  split
  · exact leaveBy_bag _ _ _ _
  · exact advance_bag _ _ _ _

theorem menuVariables_keep (content : MenuContent) (key : String) (option : MenuOption) :
    Table.without (key :: (given? content.variableName).toList)
        (menuVariables content key option bag) =
      Table.without (key :: (given? content.variableName).toList) bag := by
  unfold menuVariables
  cases given? content.variableName with
  | none => exact Table.without_remove List.mem_cons_self bag
  | some name =>
      dsimp only
      rw [Table.without_put (by simp), Table.without_remove (by simp)]

theorem rejectReply_keeps (content : MenuContent) (key : String) (before : Int)
    (context : NodeContext) (among : key ∈ names) :
    KeepsOthers names context.bag (rejectReply content key before context).bag := by
  unfold rejectReply
  dsimp only
  split
  · split
    · exact Table.without_remove among _
    · exact Table.without_remove among _
  · exact Table.without_put among _ _

theorem evaluateMenu_keeps {node : String} {content : MenuContent} {context : NodeContext}
    {result : NodeResult} (done : evaluateMenu node content context = .ok result) :
    KeepsOthers (attemptsKey node :: (given? content.variableName).toList) context.bag
      result.bag := by
  unfold evaluateMenu at done
  dsimp only at done
  split at done
  · cases done
    rfl
  · cases chosen : Reply.matchOption context.inboundText content.options with
    | error fault =>
        rw [chosen] at done
        cases done
    | ok option =>
        rw [chosen] at done
        cases option with
        | some option =>
            cases done
            unfold KeepsOthers
            rw [leaveMenu_bag]
            exact menuVariables_keep content _ _
        | none =>
            cases counted : attemptsSoFar context.bag (attemptsKey node) with
            | error fault =>
                simp only [counted, bind, Except.bind] at done
                cases done
            | ok before =>
                simp only [counted, bind, Except.bind] at done
                cases done
                exact rejectReply_keeps content _ before context List.mem_cons_self

theorem evaluateInput_keeps (content : InputContent) (context : NodeContext) :
    KeepsOthers [content.variableName] context.bag (evaluateInput content context).bag := by
  have written (text : String) :
      KeepsOthers [content.variableName] context.bag (advance context.edges
        (Table.put content.variableName text context.bag) [] none).bag := by
    unfold KeepsOthers
    rw [advance_bag]
    exact Table.without_put List.mem_cons_self text _
  unfold evaluateInput
  dsimp only
  split
  · rfl
  · split
    · exact written ""
    · split
      · exact written _
      · rfl

theorem evaluateCondition_bag (content : ConditionContent) (context : NodeContext) :
    (evaluateCondition content context).bag = context.bag := by
  unfold evaluateCondition
  dsimp only
  split <;> rfl

theorem evaluateAction_keeps (name : Option String) (content : ActionContent)
    (context : NodeContext) :
    KeepsOthers (if content.kind = .setVariable then (given? content.variableName).toList else [])
      context.bag (evaluateAction name content context).bag := by
  unfold evaluateAction KeepsOthers
  dsimp only
  cases content.kind with
  | closeConversation => rfl
  | setVariable =>
      rw [advance_bag, if_pos rfl]
      cases given? content.variableName with
      | none => rfl
      | some written => exact Table.without_put List.mem_cons_self _ _
  | addTag | removeTag | sendEmail | notify | notifyExternal | createTask =>
      exact congrArg _ (advance_bag _ _ _ _)

theorem evaluateTransfer_bag (content : TransferContent) (context : NodeContext) :
    (evaluateTransfer content context).bag = context.bag := by
  unfold evaluateTransfer
  dsimp only
  split
  · rfl
  · exact advance_bag _ _ _ _

theorem evaluateDelay_bag {content : DelayContent} {context : NodeContext} {result : NodeResult}
    (done : evaluateDelay content context = .ok result) : result.bag = context.bag := by
  unfold evaluateDelay at done
  dsimp only at done
  split at done
  · cases done
    exact advance_bag _ _ _ _
  · split at done
    · cases done
      rfl
    · cases done

/-! ### Nodes that call outside -/

theorem aiFailure_bag (context : NodeContext) : (aiFailure context).bag = context.bag := by
  unfold aiFailure
  split <;> rfl

theorem takeReply_keeps {content : AiContent} {reply : Value} {context : NodeContext}
    {result : NodeResult} (done : takeReply content reply context = .ok result) :
    KeepsOthers [givenOr content.saveToVariable "resposta_ia"] context.bag result.bag := by
  unfold takeReply at done
  dsimp only at done
  split at done
  · cases done
    unfold KeepsOthers
    rw [advance_bag]
    exact Table.without_put List.mem_cons_self _ _
  · split at done <;> cases done

/-- What a call comes to where the failures of services are taken. -/
def taken {α : Type} : Except Fault α → Except Fault (Except ExternalFailure α)
  | .ok value => .ok (.ok value)
  | .error (.external failure) => .ok (.error failure)
  | .error fault => .error fault

theorem unlessExternal_taken {α : Type} {program : Engine α} {calls : List (Answered Call.Answer)}
    {outcome : Except Fault (Except ExternalFailure α)}
    (ran : Transcript (unlessExternal program) calls outcome) :
    ∃ reply, Transcript program calls reply ∧ outcome = taken reply := by
  rcases Transcript.of_bind ran with ⟨tried, earlier, later, rfl, began, rest⟩ | ⟨_, began, _⟩
  · obtain ⟨reply, same, inner⟩ := Transcript.of_outcome began
    cases same
    refine ⟨tried, ?_⟩
    cases tried with
    | ok value =>
        obtain ⟨rfl, rfl⟩ := Transcript.of_done rest
        rw [List.append_nil]
        exact ⟨inner, rfl⟩
    | error fault =>
        cases fault with
        | external failure =>
            obtain ⟨rfl, rfl⟩ := Transcript.of_done rest
            rw [List.append_nil]
            exact ⟨inner, rfl⟩
        | _ =>
            obtain ⟨rfl, rfl⟩ := Transcript.of_fail rest
            rw [List.append_nil]
            exact ⟨inner, rfl⟩
  · obtain ⟨_, same, _⟩ := Transcript.of_outcome began
    cases same

theorem taken_ok {α : Type} {reply : Except Fault α} {value : α}
    (told : taken reply = .ok (.ok value)) : reply = .ok value := by
  cases reply with
  | ok other => cases told; rfl
  | error fault => cases fault <;> cases told

/-- Where the failure of a service is taken, a value is one that the service has given. -/
theorem of_unlessExternal {α : Type} {program : Engine α} {calls : List (Answered Call.Answer)}
    {value : α} (ran : Transcript (unlessExternal program) calls (.ok (.ok value))) :
    Transcript program calls (.ok value) := by
  obtain ⟨reply, given, same⟩ := unlessExternal_taken ran
  rwa [taken_ok same.symm] at given

theorem evaluateAi_keeps {services : Services} {content : AiContent} {context : NodeContext}
    {calls : List (Answered Call.Answer)} {result : NodeResult}
    (ran : Transcript (evaluateAi services content context) calls (.ok result)) :
    KeepsOthers (if replied calls then [givenOr content.saveToVariable "resposta_ia"] else [])
      context.bag result.bag := by
  have failed (same : Except.ok result = (.ok (aiFailure context) : Except Fault NodeResult)) :
      KeepsOthers (if replied calls then [givenOr content.saveToVariable "resposta_ia"] else [])
        context.bag result.bag := by
    cases same
    exact congrArg _ (aiFailure_bag context)
  unfold evaluateAi at ran
  split at ran
  · exact failed (Transcript.of_done ran).2
  · -- the turns of the conversation are asked for first, and then the model
    rcases Transcript.of_bind ran with ⟨turns, first, later, rfl, _, ran⟩ | ⟨_, _, same⟩
    · rcases Transcript.of_bind ran with ⟨outcome, asked, last, rfl, completed, rest⟩ | ⟨_, _, same⟩
      · cases outcome with
        | error failure => exact failed (Transcript.of_done rest).2
        | ok reply =>
            have told : replied asked = true := by
              rw [@Transcript.of_perform _ _ _ (Call.complete _) _ (of_unlessExternal completed)]
              rfl
            obtain ⟨_, taken⟩ := Transcript.of_ofExcept rest
            simp only [replied_append, told, Bool.true_or, Bool.or_true, if_true]
            exact takeReply_keeps taken.symm
      · cases same
    · cases same

/-- A request that came to an answer was answered so, and with success. -/
theorem succeeded_of_sendRequest {services : Services} {content : WebhookContent} {url : String}
    {context : NodeContext} {calls : List (Answered Call.Answer)} {outcome : RequestOutcome}
    {answer : HttpAnswer}
    (ran : Transcript (sendRequest services content url context) calls (.ok outcome))
    (ok : outcome.result = .ok answer) : succeeded calls = true := by
  unfold sendRequest at ran
  split at ran
  · obtain ⟨_, same⟩ := Transcript.of_done ran
    cases same
    cases ok
  · split at ran
    · obtain ⟨_, same⟩ := Transcript.of_done ran
      cases same
      cases ok
    · rcases Transcript.of_bind ran with ⟨reply, asked, last, rfl, sent, rest⟩ | ⟨_, _, same⟩
      · cases reply with
        | error failure =>
            obtain ⟨_, same⟩ := Transcript.of_done rest
            cases same
            cases ok
        | ok reply =>
            have told := @Transcript.of_perform _ _ _ (Call.http _) _ (of_unlessExternal sent)
            dsimp only at rest
            split at rest
            · next good =>
                have answered : succeeded asked = true := by
                  rw [told]
                  exact List.any_eq_true.mpr ⟨_, List.mem_cons_self, good⟩
                rw [succeeded_append, answered, Bool.true_or]
            · obtain ⟨_, same⟩ := Transcript.of_done rest
              cases same
              cases ok
      · cases same

theorem evaluateWebhook_keeps {services : Services} {content : WebhookContent}
    {context : NodeContext} {calls : List (Answered Call.Answer)} {result : NodeResult}
    (ran : Transcript (evaluateWebhook services content context) calls (.ok result)) :
    KeepsOthers (if succeeded calls then (given? content.responseVariable).toList else [])
      context.bag result.bag := by
  unfold evaluateWebhook at ran
  dsimp only at ran
  rcases Transcript.of_bind ran with ⟨outcome, sent, later, rfl, requested, rest⟩ | ⟨_, _, same⟩
  · cases came : outcome.result with
    | ok answer =>
        have good := succeeded_of_sendRequest requested came
        rw [came] at rest
        dsimp only at rest
        rw [succeeded_append, good, Bool.true_or, if_pos rfl]
        cases named : given? content.responseVariable with
        | none =>
            rw [named] at rest
            obtain ⟨_, same⟩ := Transcript.of_done rest
            cases same
            exact congrArg _ (advance_bag _ _ _ _)
        | some name =>
            rw [named] at rest
            rcases Transcript.of_bind rest with ⟨text, first, last, rfl, _, rest⟩ | ⟨_, _, same⟩
            · obtain ⟨_, same⟩ := Transcript.of_done rest
              cases same
              unfold KeepsOthers
              rw [advance_bag]
              exact Table.without_put List.mem_cons_self _ _
            · cases same
    | error error =>
        rw [came] at rest
        dsimp only at rest
        split at rest
        · obtain ⟨_, same⟩ := Transcript.of_done rest
          cases same
          rfl
        · split at rest
          · obtain ⟨_, same⟩ := Transcript.of_done rest
            cases same
            rfl
          · obtain ⟨_, same⟩ := Transcript.of_done rest
            cases same
            exact congrArg _ (advance_bag _ _ _ _)
  · cases same

/-! ### Any node -/

theorem evaluate_keeps {services : Services} {node : Node} {context : NodeContext}
    {calls : List (Answered Call.Answer)} {result : NodeResult}
    (ran : Transcript (evaluate services node context) calls (.ok result)) :
    KeepsOthers (declared node calls) context.bag result.bag := by
  have unchanged (same : result.bag = context.bag) :
      KeepsOthers (declared node calls) context.bag result.bag := congrArg _ same
  unfold evaluate at ran
  unfold declared at unchanged ⊢
  cases content : node.content with
  | menu given =>
      rw [content] at ran
      exact evaluateMenu_keeps (Transcript.of_ofExcept ran).2.symm
  | input given =>
      rw [content] at ran
      obtain ⟨_, same⟩ := Transcript.of_done ran
      cases same
      exact evaluateInput_keeps given context
  | action given =>
      rw [content] at ran
      obtain ⟨_, same⟩ := Transcript.of_done ran
      cases same
      exact evaluateAction_keeps node.name given context
  | aiResponse given =>
      rw [content] at ran
      exact evaluateAi_keeps ran
  | webhook given =>
      rw [content] at ran
      exact evaluateWebhook_keeps ran
  | delay given =>
      rw [content] at ran unchanged
      exact unchanged (evaluateDelay_bag (Transcript.of_ofExcept ran).2.symm)
  | condition given =>
      rw [content] at ran unchanged
      obtain ⟨_, same⟩ := Transcript.of_done ran
      cases same
      exact unchanged (evaluateCondition_bag given context)
  | transfer given =>
      rw [content] at ran unchanged
      obtain ⟨_, same⟩ := Transcript.of_done ran
      cases same
      exact unchanged (evaluateTransfer_bag given context)
  | start given | message given =>
      rw [content] at ran unchanged
      obtain ⟨_, same⟩ := Transcript.of_done ran
      cases same
      exact unchanged (advance_bag _ _ _ _)
  | finish given =>
      rw [content] at ran unchanged
      obtain ⟨_, same⟩ := Transcript.of_done ran
      cases same
      exact unchanged rfl

end Evaluation

/-! ### Visits -/

namespace Run

open Evaluation

variable {settings : EngineSettings} {flow : Flow} {session : Session}
  {inboundText : Option String} {isResume : Bool} {progress : Progress}

/-- What follows from a result does not change the variables once more. -/
theorem follow_bag (flow : Flow) (subject : TraceSubject) (now : Stamp) (result : NodeResult)
    (progress : Progress) : (follow flow subject now result progress).progress.bag = result.bag := by
  unfold follow
  dsimp only
  split
  · split <;> rfl
  · rfl

/-- No result of a node is taken for a failure of it. -/
theorem follow_unfailed {services : Services} {node : Node} {context : NodeContext}
    {calls : List (Answered Call.Answer)} {result : NodeResult}
    (ran : Transcript (evaluate services node context) calls (.ok result)) (flow : Flow)
    (subject : TraceSubject) (now : Stamp) (progress last : Progress) :
    follow flow subject now result progress ≠ .halted (.terminate .failed "node_error") last := by
  unfold follow
  dsimp only
  split
  · split <;> simp
  · intro same
    have guided := guided_of_evaluated ran
    exact guided.known "node_error" (by decide) .failed (Visit.halted.inj same).1

/-- A visit changes the variables that its node declares at most, and none where the node fails. -/
theorem visit_keeps {calls : List (Answered Call.Answer)} {seen : Visit}
    (ran : Transcript (visit settings flow session inboundText isResume progress) calls (.ok seen)) :
    (∀ node, flow.node? progress.node = some node →
        KeepsOthers (declared node calls) progress.bag seen.progress.bag) ∧
      ∀ last, seen = .halted (.terminate .failed "node_error") last → last.bag = progress.bag := by
  unfold visit at ran
  rcases now_first ran with ⟨now, later, rfl, rest⟩ | ⟨_, _, same⟩
  · clear ran
    cases found : flow.node? progress.node with
    | none =>
        rw [found] at rest
        have same := Except.ok.inj (Transcript.of_done rest).2
        subst same
        constructor
        · intro node same
          cases same
        · intro last same
          simp at same
    | some node =>
        rw [found] at rest
        rcases Transcript.of_bind rest with ⟨outcome, earlier, last, rfl, tried, ending⟩ | ⟨_, _, same⟩
        · obtain ⟨inner, same, evaluated⟩ := Transcript.of_outcome tried
          cases same
          cases outcome with
          | ok result =>
              obtain ⟨rfl, same⟩ := Transcript.of_done ending
              cases same
              rw [List.append_nil]
              constructor
              · rintro _ ⟨⟩
                exact (congrArg _ (follow_bag _ _ _ _ _)).trans (evaluate_keeps evaluated)
              · intro last failed
                exact absurd failed (follow_unfailed evaluated _ _ _ _ _)
          | error fault =>
              obtain ⟨_, same⟩ := Transcript.of_done ending
              cases same
              constructor
              · intro node same
                rfl
              · intro last same
                cases same
                rfl
        · cases same
  · cases same

end Run

/-! ### Only what was declared -/

/-- Whatever the services answer, a node gives back the variables that it was given, in their order, but
for those that it declares: a menu its counter and its variable, an input its variable, a language model
that has replied and a request that was answered with success theirs, an action that sets one that one.
All other nodes give back just what they were given; and a node that fails leaves the run the variables
that it had. -/
theorem declared_variables_only :
    (∀ (services : Services) (node : Node) (context : NodeContext)
      (calls : List (Answered Call.Answer)) (result : NodeResult),
      Transcript (Evaluation.evaluate services node context) calls (.ok result) →
        Evaluation.KeepsOthers (Evaluation.declared node calls) context.bag result.bag ∧
          (Evaluation.declared node calls = [] → result.bag = context.bag)) ∧
    ∀ (settings : EngineSettings) (flow : Flow) (session : Session) (inboundText : Option String)
      (isResume : Bool) (progress : Progress) (calls : List (Answered Call.Answer)) (seen : Visit),
      Transcript (Run.visit settings flow session inboundText isResume progress) calls (.ok seen) →
        (∀ node, flow.node? progress.node = some node →
          Evaluation.KeepsOthers (Evaluation.declared node calls) progress.bag seen.progress.bag) ∧
        ∀ last, seen = .halted (.terminate .failed "node_error") last →
          last.bag = progress.bag := by
  constructor
  · intro services node context calls result ran
    have kept := Evaluation.evaluate_keeps ran
    constructor
    · exact kept
    · intro nothing
      unfold Evaluation.KeepsOthers at kept
      rwa [nothing, Table.without_nil, Table.without_nil] at kept
  · intro settings flow session inboundText isResume progress calls seen ran
    exact Run.visit_keeps ran

/-- A node that asks a language model, and sends its reply. -/
def adviser : Node :=
  ⟨"ia", none, Position.origin, .aiResponse
    ⟨some "Ajude.", none, AiContent.defaultTemperature, none, false, 10, true, []⟩, []⟩

def consultation : NodeContext :=
  ⟨"org_1", "conv_1", some "session-0001", "flow-0001", [("nome", "Ana"), ("cidade", "Recife")], [],
    some "Oi", true, default⟩

def choosing : Flow := shortFlow "org_1" (.menu ⟨none, [], none, 3, none, []⟩)

def chooser : Session where
  id := some "session-0001"
  conversation := "conv_1"
  organization := "org_1"
  connection := none
  flow := "flow-0001"
  currentNode := "node"
  bag := [("nome", "Ana"), ("__menu_attempts__node", "x")]
  status := .awaitingInput
  isActive := true
  revision := 1
  endReason := none
  resumeAt := none
  startedBy := none
  startedAt := default
  updatedAt := default
  endedAt := none

/-- Replies of services that work. -/
def helpful : (request : Call) → Except Fault request.Answer
  | .clock => .ok (default : Stamp)
  | .complete _ => .ok (Value.str "Claro.")
  | _ => .error (.runtime "out of service")

/-- The reply of a language model is added at the end; and a menu whose counter is no number fails, and
leaves the variables alone. -/
theorem declared_variables_only_advised :
    (∃ calls result, Transcript (Evaluation.evaluate .all adviser consultation) calls (.ok result) ∧
      result.bag = [("nome", "Ana"), ("cidade", "Recife"), ("resposta_ia", "Claro.")] ∧
      Evaluation.declared adviser calls = ["resposta_ia"] ∧
      Evaluation.KeepsOthers (Evaluation.declared adviser calls) consultation.bag result.bag) ∧
    ∃ calls last, Transcript (Run.visit sampleSettings choosing chooser (some "9") true
        (Progress.ofSession chooser)) calls (.ok (.halted (.terminate .failed "node_error") last)) ∧
      last.bag = chooser.bag := by
  constructor
  · have asked := consult_transcript helpful (Evaluation.evaluate .all adviser consultation)
    have replied : (consult helpful (Evaluation.evaluate .all adviser consultation)).2 =
        .ok ⟨[Effect.message "Claro."], .terminate .completed "no_outgoing_edge",
          [("nome", "Ana"), ("cidade", "Recife"), ("resposta_ia", "Claro.")]⟩ := rfl
    rw [replied] at asked
    refine ⟨_, _, asked, rfl, by decide +kernel, ?_⟩
    exact (declared_variables_only.1 _ _ _ _ _ asked).1
  · have ran := consult_transcript helpful (Run.visit sampleSettings choosing chooser (some "9") true
      (Progress.ofSession chooser))
    have failed : ∃ last, (consult helpful (Run.visit sampleSettings choosing chooser (some "9") true
        (Progress.ofSession chooser))).2 = .ok (.halted (.terminate .failed "node_error") last) :=
      ⟨_, rfl⟩
    obtain ⟨last, failed⟩ := failed
    rw [failed] at ran
    exact ⟨_, last, ran, (declared_variables_only.2 _ _ _ _ _ _ _ _ ran).2 last rfl⟩

end ChatFlow

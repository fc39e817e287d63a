import ChatFlow.Engine.Dispatch
import ChatFlow.Engine.Evaluation
import ChatFlow.Proofs.Clock
import ChatFlow.Proofs.ProgramPast
/-
The parts of a run that leave the store alone. Nodes are evaluated, and effects are carried out, by
calls to the services around the engine only; and no node asks to be resumed before the time at
which it was evaluated.
-/

set_option autoImplicit false

namespace ChatFlow

open Program

def Call.isStore : Call → Bool
  | .store _ => true
  | _ => false

/-- No call of a program goes to the store, and what it gives is good. -/
structure SparesStore {α : Type} (good : α → Prop) (program : Engine α) : Prop where
  follows : ∀ past, Follows (fun _ request => request.isStore = false)
    (whenDone fun _ value => good value) program past

namespace SparesStore

variable {α β : Type} {good : α → Prop}

theorem done {value : α} (holds : good value) : SparesStore good (pure value : Engine α) :=
  ⟨fun _ => Follows.done holds⟩

theorem fail (fault : Fault) : SparesStore good (.fail fault : Engine α) :=
  ⟨fun _ => Follows.fail trivial⟩

theorem ofExcept {given : Except Fault α} (holds : ∀ value, given = .ok value → good value) :
    SparesStore good (Program.ofExcept given) := by
  cases given with
  | ok value => exact .done (holds value rfl)
  | error fault => exact .fail fault

theorem value (value : α) : SparesStore (fun _ => True) (pure value : Engine α) := .done trivial

theorem given (given : Except Fault α) : SparesStore (fun _ => True) (Program.ofExcept given) :=
  .ofExcept fun _ _ => trivial

theorem perform {request : Call} (service : request.isStore = false) :
    SparesStore (fun _ => True) (Program.perform request) :=
  ⟨fun _ => (Follows.perform service).keeps⟩

theorem bind {middle : β → Prop} {first : Engine β} {next : β → Engine α}
    (start : SparesStore middle first) (rest : ∀ value, middle value → SparesStore good (next value)) :
    SparesStore good (first >>= next) :=
  ⟨fun past => (start.follows past).andThen fun value later _ holds =>
    (rest value holds).follows later⟩

theorem outcome {program : Engine α} (spares : SparesStore good program) :
    SparesStore (fun result => ∀ value, result = .ok value → good value)
      (Program.outcome program) := by
  refine ⟨fun past => (spares.follows past).outcome.weaken fun _ result _ known => ?_⟩
  cases result with
  | error fault => trivial
  | ok result =>
      intro value same
      cases same
      exact known

/-- What spares the store follows every rule that allows all other calls. -/
theorem loosen {program : Engine α} (spares : SparesStore good program)
    {rule : Past Call.Answer → Call → Prop}
    (allows : ∀ past request, request.isStore = false → rule past request)
    (past : Past Call.Answer) : Follows rule (whenDone fun _ value => good value) program past :=
  (spares.follows past).loosen allows

end SparesStore

/-! ### Results of nodes -/

/-- A node that suspends its session does so until no time before the given one. -/
def NodeResult.Timed (now : Stamp) (result : NodeResult) : Prop :=
  ∀ resumeAt, result.next = .suspend resumeAt → resumeAt.NotBefore now

namespace Evaluation

variable {now : Stamp}

theorem leaveBy_timed (edge : Option Edge) (handle : Option String) (bag : Variables)
    (effects : List Effect) : (leaveBy edge handle bag effects).Timed now := by
  cases edge <;> exact fun _ same => nomatch same

theorem advance_timed (edges : List Edge) (bag : Variables) (effects : List Effect)
    (handle : Option String) : (advance edges bag effects handle).Timed now :=
  leaveBy_timed _ _ _ _

theorem leaveMenu_timed (index : Nat) (option : MenuOption) (edges : List Edge)
    (bag : Variables) : (leaveMenu index option edges bag).Timed now := by
  unfold leaveMenu
  dsimp only
  split
  · exact leaveBy_timed _ _ _ _
  · exact advance_timed _ _ _ _

theorem rejectReply_timed (content : MenuContent) (key : String) (before : Int)
    (context : NodeContext) : (rejectReply content key before context).Timed now := by
  unfold rejectReply
  dsimp only
  split
  · split <;> exact fun _ same => nomatch same
  · exact fun _ same => nomatch same

theorem evaluateMenu_timed {node : String} {content : MenuContent} {context : NodeContext}
    {result : NodeResult} (done : evaluateMenu node content context = .ok result) :
    result.Timed now := by
  unfold evaluateMenu at done
  dsimp only at done
  split at done
  · cases done
    exact fun _ same => nomatch same
  · cases chosen : Reply.matchOption context.inboundText content.options with
    | error fault => rw [chosen] at done; cases done
    | ok option =>
        rw [chosen] at done
        cases option with
        | some option =>
            cases done
            exact leaveMenu_timed _ _ _ _
        | none =>
            cases counted : attemptsSoFar context.bag (attemptsKey node) with
            | error fault => simp only [counted, bind, Except.bind] at done; cases done
            | ok before =>
                simp only [counted, bind, Except.bind] at done
                cases done
                exact rejectReply_timed _ _ _ _

theorem evaluateInput_timed (content : InputContent) (context : NodeContext) :
    (evaluateInput content context).Timed now := by
  unfold evaluateInput
  dsimp only
  split
  · exact fun _ same => nomatch same
  · split
    · exact advance_timed _ _ _ _
    · split
      · exact advance_timed _ _ _ _
      · exact fun _ same => nomatch same

theorem evaluateCondition_timed (content : ConditionContent) (context : NodeContext) :
    (evaluateCondition content context).Timed now := by
  unfold evaluateCondition
  dsimp only
  split <;> exact fun _ same => nomatch same

theorem evaluateAction_timed (name : Option String) (content : ActionContent)
    (context : NodeContext) : (evaluateAction name content context).Timed now := by
  unfold evaluateAction
  dsimp only
  split
  · exact fun _ same => nomatch same
  · exact advance_timed _ _ _ _
  · exact advance_timed _ _ _ _

theorem evaluateTransfer_timed (content : TransferContent) (context : NodeContext) :
    (evaluateTransfer content context).Timed now := by
  unfold evaluateTransfer
  dsimp only
  split
  · exact fun _ same => nomatch same
  · exact advance_timed _ _ _ _

theorem aiFailure_timed (context : NodeContext) : (aiFailure context).Timed now := by
  unfold aiFailure
  split <;> exact fun _ same => nomatch same

theorem takeReply_timed {content : AiContent} {reply : Value} {context : NodeContext}
    {result : NodeResult} (done : takeReply content reply context = .ok result) :
    result.Timed now := by
  unfold takeReply at done
  dsimp only at done
  split at done
  · cases done
    exact advance_timed _ _ _ _
  · split at done <;> cases done

theorem evaluateDelay_timed {content : DelayContent} {context : NodeContext} {result : NodeResult}
    (done : evaluateDelay content context = .ok result) : result.Timed context.now := by
  unfold evaluateDelay at done
  dsimp only at done
  split at done
  · cases done
    exact advance_timed _ _ _ _
  · split at done
    · next resumeAt later =>
        cases done
        intro other same
        cases same
        exact Stamp.addSeconds?_notBefore (Int.natCast_nonneg _) later
    · cases done

theorem unlessExternal_sparesStore {α : Type} {program : Engine α}
    (spares : SparesStore (fun _ => True) program) :
    SparesStore (fun _ => True) (unlessExternal program) := by
  refine spares.outcome.bind fun result _ => ?_
  cases result with
  | ok value => exact .done trivial
  | error fault =>
      cases fault with
      | external failure => exact .done trivial
      | _ => exact .fail _

theorem historyTurns_sparesStore (services : Services) (content : AiContent)
    (conversation : String) :
    SparesStore (fun _ => True) (historyTurns services content conversation) := by
  unfold historyTurns
  split
  · refine (unlessExternal_sparesStore (.perform rfl)).bind fun result _ => ?_
    cases result with
    | ok turns => exact .done trivial
    | error failure => exact .done trivial
  · exact .done trivial

theorem evaluateAi_sparesStore (services : Services) (content : AiContent)
    (context : NodeContext) :
    SparesStore (NodeResult.Timed now) (evaluateAi services content context) := by
  unfold evaluateAi
  split
  · exact .done (aiFailure_timed context)
  · have turns := historyTurns_sparesStore services content context.conversation
    refine turns.bind fun turns _ => ?_
    refine (unlessExternal_sparesStore (.perform rfl)).bind fun result _ => ?_
    cases result with
    | ok reply => exact .ofExcept fun _ done => takeReply_timed done
    | error failure => exact .done (aiFailure_timed context)

theorem sendRequest_sparesStore (services : Services) (content : WebhookContent) (url : String)
    (context : NodeContext) :
    SparesStore (fun _ => True) (sendRequest services content url context) := by
  unfold sendRequest
  split
  · exact .done trivial
  · split
    · exact .done trivial
    · refine (unlessExternal_sparesStore (.perform rfl)).bind fun result _ => ?_
      cases result with
      | ok answer =>
          dsimp only
          split <;> exact .done trivial
      | error failure => exact .done trivial

theorem evaluateWebhook_sparesStore (services : Services) (content : WebhookContent)
    (context : NodeContext) :
    SparesStore (NodeResult.Timed now) (evaluateWebhook services content context) := by
  unfold evaluateWebhook
  dsimp only
  refine (sendRequest_sparesStore services content _ context).bind fun outcome _ => ?_
  cases outcome.result with
  | ok answer =>
      dsimp only
      split
      · exact (SparesStore.value _).bind fun bag _ => .done (advance_timed _ _ _ _)
      · exact (SparesStore.given _).bind fun text _ =>
          (SparesStore.value _).bind fun bag _ => .done (advance_timed _ _ _ _)
  | error error =>
      dsimp only
      split
      · exact .done fun _ same => nomatch same
      · split
        · exact .done fun _ same => nomatch same
        · exact .done (advance_timed _ _ _ _)

/-- Evaluating a node calls services only, and suspends a session for no time gone by. -/
theorem evaluate_sparesStore (services : Services) (node : Node) (context : NodeContext) :
    SparesStore (NodeResult.Timed context.now) (evaluate services node context) := by
  unfold evaluate
  cases node.content with
  | start content => exact .done (advance_timed _ _ _ _)
  | message content => exact .done (advance_timed _ _ _ _)
  | menu content => exact .ofExcept fun _ done => evaluateMenu_timed done
  | input content => exact .done (evaluateInput_timed content context)
  | condition content => exact .done (evaluateCondition_timed content context)
  | action content => exact .done (evaluateAction_timed node.name content context)
  | transfer content => exact .done (evaluateTransfer_timed content context)
  | aiResponse content => exact evaluateAi_sparesStore services content context
  | delay content => exact .ofExcept fun _ done => evaluateDelay_timed done
  | webhook content => exact evaluateWebhook_sparesStore services content context
  | finish content => exact .done fun _ same => nomatch same

end Evaluation

/-! ### Effects -/

namespace Effect

theorem attempt_sparesStore (effect : Effect) (delivery : Delivery) :
    SparesStore (fun _ => True) (do
      match effect.pause? with
      | some seconds => Engine.sleep seconds
      | none => pure ()
      Engine.deliver delivery) := by
  have delivering : SparesStore (fun _ => True) (Engine.deliver delivery) :=
    @SparesStore.perform (.deliver delivery) rfl
  split
  · exact (SparesStore.perform rfl).bind fun _ _ => delivering
  · exact (SparesStore.value ()).bind fun _ _ => delivering

theorem dispatch_always (organization conversation : String) (effect : Effect)
    (past : Past Call.Answer) :
    Follows (fun _ request => request.isStore = false) (always fun _ _ => True)
      (dispatch organization conversation effect) past := by
  unfold dispatch
  split
  · exact Follows.done trivial
  · next delivery _ =>
      have attempt := attempt_sparesStore effect delivery
      refine (attempt.follows past).outcome.bind (fun result later _ _ => ?_)
        fun _ _ _ known => known.elim
      cases result with
      | ok value => exact Follows.done trivial
      | error fault => exact Follows.done trivial

/-- Effects are carried out without the store, and a failure of one is not one of the run. -/
theorem dispatchAll_always (organization conversation : String) (effects : List Effect)
    (past : Past Call.Answer) :
    Follows (fun _ request => request.isStore = false) (always fun _ _ => True)
      (dispatchAll organization conversation effects) past := by
  induction effects generalizing past with
  | nil => exact Follows.done trivial
  | cons effect rest ih =>
      have sent : Follows (fun _ request => request.isStore = false) (always fun _ _ => True)
          (discard (dispatch organization conversation effect)) past :=
        (dispatch_always organization conversation effect past).discards
          (fun _ _ _ => trivial) fun _ _ known => known
      exact sent.bind (fun _ later _ _ => ih later) fun _ _ _ known => known

end Effect

end ChatFlow

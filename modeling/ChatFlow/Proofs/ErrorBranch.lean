import ChatFlow.Proofs.DeclaredVariables
import ChatFlow.Proofs.Tour
/-
The branch for failures. A node that calls outside keeps one edge for the case that its call fails: the
first that leaves by the handle `error`, or else the first that is labelled so. A failed call follows it.
A successful one sets aside the edges that leave by that handle, but not those that are only labelled,
and so may still follow one of them.
-/

set_option autoImplicit false

namespace ChatFlow

open Program

/-! ### Choosing among edges -/

namespace Edge

variable {edges : List Edge} {edge : Edge} {handle : String}

/-- An edge is found for a handle since it leaves by it, or since it is labelled with it and none
leaves by it. -/
theorem forHandle?_cases (found : forHandle? handle edges = some edge) :
    edges.find? (leavesFrom handle) = some edge ∨
      edges.find? (leavesFrom handle) = none ∧ edges.find? (isLabelled handle) = some edge := by
  unfold forHandle? at found
  rwa [Option.orElse_eq_orElse, Option.orElse_eq_or, Option.or_eq_some_iff] at found

theorem sourceHandle_of_leaving (found : edges.find? (leavesFrom handle) = some edge) :
    edge.sourceHandle = some handle := by
  simpa [leavesFrom] using List.find?_some found

/-- A label is a text up to case for one text in small letters at most. -/
theorem isLabelled_unique {other : String} (labelled : edge.isLabelled handle = true)
    (different : Text.lower handle ≠ Text.lower other) : edge.isLabelled other = false := by
  unfold isLabelled at labelled ⊢
  cases named : edge.label with
  | none => rfl
  | some label =>
      simp only [named, Bool.and_eq_true, beq_iff_eq] at labelled
      simp [labelled.2, different]

/-- The edge by which a successful call leaves. -/
def onSuccess? (edges : List Edge) : Option Edge := select? (some "success") (withoutError edges)

theorem onSuccess?_leaves (chosen : onSuccess? edges = some edge) :
    edge ∈ edges ∧ edge.sourceHandle ≠ some errorHandle := by
  obtain ⟨member, other⟩ := List.mem_filter.mp (mem_of_select? chosen)
  exact ⟨member, by simpa using other⟩

theorem withoutError_of_unhandled (unhandled : edges.find? (leavesFrom errorHandle) = none) :
    withoutError edges = edges := by
  apply List.filter_eq_self.mpr
  intro edge member
  have other := List.find?_eq_none.mp unhandled edge member
  simpa [leavesFrom] using other

/-- The edge for failures is only labelled as such, and stands where a success looks: it is the first
that leaves by the handle `success`, or the first of all where none is for that handle. -/
structure Confounds (edges : List Edge) (failing : Edge) : Prop where
  labelled : failing.sourceHandle ≠ some errorHandle
  placed : edges.find? (leavesFrom "success") = some failing ∨
    forHandle? "success" edges = none ∧ edges.head? = some failing

/-- A success follows the edge for failures just where that is confounded with its own. -/
theorem onSuccess?_eq_failing_iff {failing : Edge}
    (selected : forHandle? errorHandle edges = some failing) :
    onSuccess? edges = some failing ↔ Confounds edges failing := by
  constructor
  · intro chosen
    have labelled := (onSuccess?_leaves chosen).2
    refine ⟨labelled, ?_⟩
    rcases forHandle?_cases selected with leaving | ⟨unhandled, found⟩
    · exact absurd (sourceHandle_of_leaving leaving) labelled
    · unfold onSuccess? select? at chosen
      rw [withoutError_of_unhandled unhandled, Option.bind_some, Option.orElse_eq_orElse,
        Option.orElse_eq_or, Option.or_eq_some_iff] at chosen
      rcases chosen with own | ⟨nothing, first⟩
      · rcases forHandle?_cases own with leaving | ⟨_, mistaken⟩
        · exact Or.inl leaving
        · -- no edge is labelled for both
          have alone := isLabelled_unique (List.find?_some found)
            (by decide : Text.lower errorHandle ≠ Text.lower "success")
          rw [List.find?_some mistaken] at alone
          cases alone
      · exact Or.inr ⟨nothing, first⟩
  · rintro ⟨labelled, placed⟩
    have unhandled : edges.find? (leavesFrom errorHandle) = none := by
      rcases forHandle?_cases selected with leaving | ⟨unhandled, _⟩
      · exact absurd (sourceHandle_of_leaving leaving) labelled
      · exact unhandled
    unfold onSuccess? select?
    rw [withoutError_of_unhandled unhandled, Option.bind_some]
    rcases placed with leaving | ⟨nothing, first⟩
    · simp [forHandle?, leaving]
    · simp [nothing, first]

/-- A lone edge that leaves by the handle for failures is none for a success. -/
theorem onSuccess?_lone {failing : Edge} (handled : failing.sourceHandle = some errorHandle)
    (lone : ∀ edge ∈ edges, edge = failing) : onSuccess? edges = none := by
  cases chosen : onSuccess? edges with
  | none => rfl
  | some edge =>
      obtain ⟨member, other⟩ := onSuccess?_leaves chosen
      rw [lone edge member] at other
      exact absurd handled other

end Edge

namespace Evaluation

theorem advance_onSuccess (edges : List Edge) (bag : Variables) (effects : List Effect) :
    (advance (Edge.withoutError edges) bag effects (some "success")).next.LeavesBy
      (Edge.onSuccess? edges) :=
  leaveBy_leaves _ _ _ _

/-! ### Calls that succeed or fail -/

/-- One call to a service whose failure is taken. -/
theorem perform_taken {request : Call} {calls : List (Answered Call.Answer)}
    {outcome : Except Fault (Except ExternalFailure request.Answer)}
    (ran : Transcript (unlessExternal (Program.perform request)) calls outcome) :
    ∃ reply, calls = [⟨request, reply⟩] ∧ outcome = taken reply := by
  obtain ⟨reply, asked, same⟩ := unlessExternal_taken ran
  exact ⟨reply, Transcript.of_perform asked, same⟩

/-- A service has failed in another way than by saying so, and that is what a node comes to. -/
def Breaks {α : Type} (calls : List (Answered Call.Answer)) (outcome : Except Fault α) : Prop :=
  ∃ request fault, ⟨request, .error fault⟩ ∈ calls ∧ (∀ failure, fault ≠ .external failure) ∧
    outcome = .error fault

theorem taken_error {α : Type} {reply : Except Fault α} {fault : Fault}
    (broken : taken reply = .error fault) :
    reply = .error fault ∧ ∀ failure, fault ≠ .external failure := by
  cases reply with
  | ok value => cases broken
  | error other =>
      cases other with
      | external failure => cases broken
      | _ =>
          cases broken
          exact ⟨rfl, nofun⟩

theorem historyTurns_breaks {services : Services} {content : AiContent} {conversation : String}
    {calls : List (Answered Call.Answer)} {fault : Fault}
    (ran : Transcript (historyTurns services content conversation) calls (.error fault)) :
    ∃ request, ⟨request, .error fault⟩ ∈ calls ∧ ∀ failure, fault ≠ .external failure := by
  unfold historyTurns at ran
  split at ran
  · rcases Transcript.of_bind ran with ⟨turns, earlier, later, rfl, _, rest⟩ | ⟨_, looked, same⟩
    · cases turns with
      | ok turns => cases (Transcript.of_done rest).2
      | error failure => cases (Transcript.of_done rest).2
    · cases same
      obtain ⟨reply, rfl, broken⟩ := @perform_taken (.history _ _) _ _ looked
      obtain ⟨rfl, other⟩ := taken_error broken.symm
      exact ⟨_, List.mem_singleton_self _, other⟩
  · cases (Transcript.of_done ran).2

/-- A language model that gave a reply has replied. -/
theorem replied_of_mem {calls : List (Answered Call.Answer)} {request : AiRequest} {reply : Value}
    (member : ⟨.complete request, .ok reply⟩ ∈ calls) : replied calls = true :=
  List.any_eq_true.mpr ⟨_, member, rfl⟩

theorem succeeded_of_mem {calls : List (Answered Call.Answer)} {request : HttpRequest}
    {answer : HttpAnswer} (member : ⟨.http request, .ok answer⟩ ∈ calls) (good : answer.isOk = true) :
    succeeded calls = true :=
  List.any_eq_true.mpr ⟨_, member, good⟩

theorem replied_of_inside {calls : List (Answered Call.Answer)}
    (inside : ∀ entry ∈ calls, entry.request.isOutbound = false) : replied calls = false := by
  apply List.any_eq_false.mpr
  rintro ⟨request, reply⟩ member
  have inward := inside _ member
  cases request with
  | complete => cases inward
  | _ => exact Bool.false_ne_true

/-- A node that asks a language model takes its reply, or fails where there is none, unless a service
breaks. -/
theorem evaluateAi_comes {services : Services} {content : AiContent} {context : NodeContext}
    {calls : List (Answered Call.Answer)} {outcome : Except Fault NodeResult}
    (ran : Transcript (evaluateAi services content context) calls outcome) :
    (∃ request reply, ⟨.complete request, .ok reply⟩ ∈ calls ∧
        outcome = takeReply content reply context) ∨
      (replied calls = false ∧ outcome = .ok (aiFailure context)) ∨ Breaks calls outcome := by
  unfold evaluateAi at ran
  split at ran
  · obtain ⟨rfl, rfl⟩ := Transcript.of_done ran
    exact Or.inr (Or.inl ⟨rfl, rfl⟩)
  · rcases Transcript.of_bind ran with ⟨turns, first, later, rfl, looked, ran⟩ | ⟨_, looked, rfl⟩
    · have inside : StaysInside (historyTurns services content context.conversation) :=
        historyTurns_makes services rfl
      have unasked := replied_of_inside (inside.all looked)
      rcases Transcript.of_bind ran with ⟨value, asked, last, rfl, completed, rest⟩ |
        ⟨fault, completed, rfl⟩
      · obtain ⟨reply, rfl, same⟩ := @perform_taken (.complete _) _ _ completed
        cases value with
        | ok value =>
            rw [taken_ok same.symm]
            obtain ⟨_, given⟩ := Transcript.of_ofExcept rest
            exact Or.inl ⟨_, value, List.mem_append_right _ List.mem_cons_self, given⟩
        | error failure =>
            obtain ⟨rfl, rfl⟩ := Transcript.of_done rest
            refine Or.inr (Or.inl ⟨?_, rfl⟩)
            cases reply with
            | ok reply => cases same
            | error fault =>
                rw [replied_append, unasked]
                rfl
      · obtain ⟨reply, rfl, same⟩ := @perform_taken (.complete _) _ _ completed
        obtain ⟨rfl, other⟩ := taken_error same.symm
        exact Or.inr (Or.inr ⟨_, fault, List.mem_append_right _ List.mem_cons_self, other, rfl⟩)
    · obtain ⟨request, member, other⟩ := historyTurns_breaks looked
      exact Or.inr (Or.inr ⟨request, _, member, other, rfl⟩)

/-- A request comes to an answer of success, or to an error where there was none, unless the service
breaks. -/
theorem sendRequest_comes {services : Services} {content : WebhookContent} {url : String}
    {context : NodeContext} {calls : List (Answered Call.Answer)}
    {outcome : Except Fault RequestOutcome}
    (ran : Transcript (sendRequest services content url context) calls outcome) :
    (∃ request answer code, ⟨.http request, .ok answer⟩ ∈ calls ∧ answer.isOk = true ∧
        outcome = .ok ⟨code, .ok answer⟩) ∨
      (succeeded calls = false ∧ ∃ code error, outcome = .ok ⟨code, .error error⟩) ∨
      Breaks calls outcome := by
  unfold sendRequest at ran
  split at ran
  · obtain ⟨rfl, rfl⟩ := Transcript.of_done ran
    exact Or.inr (Or.inl ⟨rfl, _, _, rfl⟩)
  · split at ran
    · obtain ⟨rfl, rfl⟩ := Transcript.of_done ran
      exact Or.inr (Or.inl ⟨rfl, _, _, rfl⟩)
    · rcases Transcript.of_bind ran with ⟨value, asked, last, rfl, sent, rest⟩ | ⟨fault, sent, rfl⟩
      · obtain ⟨reply, rfl, same⟩ := @perform_taken (.http _) _ _ sent
        cases value with
        | error failure =>
            obtain ⟨rfl, rfl⟩ := Transcript.of_done rest
            refine Or.inr (Or.inl ⟨?_, _, _, rfl⟩)
            cases reply with
            | ok answer => cases same
            | error fault => rfl
        | ok answer =>
            rw [taken_ok same.symm]
            dsimp only at rest
            split at rest
            · next good =>
                obtain ⟨rfl, rfl⟩ := Transcript.of_done rest
                exact Or.inl ⟨_, answer, _, List.mem_cons_self, good, rfl⟩
            · next bad =>
                obtain ⟨rfl, rfl⟩ := Transcript.of_done rest
                exact Or.inr (Or.inl ⟨by simpa [succeeded] using bad, _, _, rfl⟩)
      · obtain ⟨reply, rfl, same⟩ := @perform_taken (.http _) _ _ sent
        obtain ⟨rfl, other⟩ := taken_error same.symm
        exact Or.inr (Or.inr ⟨_, fault, List.mem_cons_self, other, rfl⟩)

/-- The text that a node takes from an answer of success, where it keeps one. -/
def readAnswer (content : WebhookContent) (answer : HttpAnswer) : Except Fault (Option String) :=
  match given? content.responseVariable with
  | none => .ok none
  | some _ => (ResponsePath.extract answer.body answer.json content.responsePath).map some

/-- Where a node goes on after a request that has failed. -/
def afterFailure (content : WebhookContent) (edges : List Edge) : Decision → Prop :=
  fun decision =>
    if content.continueOnError = true then
      match Edge.forHandle? Edge.errorHandle edges with
      | some edge => decision = .advance edge.target (some Edge.errorHandle)
      | none => decision.LeavesBy (Edge.onSuccess? edges)
    else decision = .terminate .failed "webhook_error"

/-- A node that sends a request leaves by its edge for success where that was answered so, unless the
answer cannot be read; where it was not, it goes on as it does after failures. -/
theorem evaluateWebhook_comes {services : Services} {content : WebhookContent}
    {context : NodeContext} {calls : List (Answered Call.Answer)}
    {outcome : Except Fault NodeResult}
    (ran : Transcript (evaluateWebhook services content context) calls outcome) :
    (∃ request answer, ⟨.http request, .ok answer⟩ ∈ calls ∧ answer.isOk = true ∧
        ((∃ result, outcome = .ok result ∧ result.next.LeavesBy (Edge.onSuccess? context.edges)) ∨
          ∃ fault, readAnswer content answer = .error fault ∧ outcome = .error fault)) ∨
      (succeeded calls = false ∧ ∃ result, outcome = .ok result ∧
        afterFailure content context.edges result.next) ∨ Breaks calls outcome := by
  unfold evaluateWebhook at ran
  dsimp only at ran
  rcases Transcript.of_bind ran with ⟨came, sent, later, rfl, requested, rest⟩ |
    ⟨fault, requested, rfl⟩
  · rcases sendRequest_comes requested with ⟨request, answer, code, member, good, same⟩ |
      ⟨unanswered, code, error, same⟩ | ⟨_, _, _, _, same⟩
    · cases same
      refine Or.inl ⟨request, answer, List.mem_append_left _ member, good, ?_⟩
      dsimp only at rest
      unfold readAnswer
      cases named : given? content.responseVariable with
      | none =>
          rw [named] at rest
          obtain ⟨_, rfl⟩ := Transcript.of_done rest
          exact Or.inl ⟨_, rfl, advance_onSuccess _ _ _⟩
      | some name =>
          rw [named] at rest
          rcases Transcript.of_bind rest with ⟨bag, first, last, rfl, read, rest⟩ | ⟨fault, read, rfl⟩
          · obtain ⟨_, rfl⟩ := Transcript.of_done rest
            exact Or.inl ⟨_, rfl, advance_onSuccess _ _ _⟩
          · refine Or.inr ⟨fault, ?_, rfl⟩
            dsimp only
            rw [← (Transcript.of_ofExcept read).2]
            rfl
    · cases same
      refine Or.inr (Or.inl ?_)
      dsimp only at rest
      have silent {result : Except Fault NodeResult} (ended : later = [] ∧ outcome = result) :
          succeeded (sent ++ later) = false ∧ outcome = result := by
        obtain ⟨rfl, same⟩ := ended
        rw [List.append_nil]
        exact ⟨unanswered, same⟩
      unfold afterFailure
      cases goesOn : content.continueOnError with
      | false =>
          rw [goesOn] at rest
          obtain ⟨quiet, rfl⟩ := silent (Transcript.of_done rest)
          exact ⟨quiet, _, rfl, rfl⟩
      | true =>
          rw [goesOn] at rest
          cases found : Edge.forHandle? Edge.errorHandle context.edges with
          | some edge =>
              rw [found] at rest
              obtain ⟨quiet, rfl⟩ := silent (Transcript.of_done rest)
              exact ⟨quiet, _, rfl, rfl⟩
          | none =>
              rw [found] at rest
              obtain ⟨quiet, rfl⟩ := silent (Transcript.of_done rest)
              exact ⟨quiet, _, rfl, advance_onSuccess _ _ _⟩
    · cases same
  · rcases sendRequest_comes requested with ⟨_, _, _, _, _, same⟩ | ⟨_, _, _, same⟩ |
      ⟨request, why, member, other, same⟩
    · cases same
    · cases same
    · cases same
      exact Or.inr (Or.inr ⟨request, fault, member, other, rfl⟩)

/-! ### Both outcomes of a call -/

/-- The call of a node has succeeded: a language model has replied, or a request was answered with
success. -/
def isServed (node : Node) (calls : List (Answered Call.Answer)) : Bool :=
  match node.content with
  | .aiResponse _ => replied calls
  | .webhook _ => succeeded calls
  | _ => false

/-- A node goes on where its call has failed; one that sends a request does so where it is told to. -/
def goesOnUnserved (node : Node) : Bool :=
  match node.content with
  | .webhook content => content.continueOnError
  | _ => true

/-- What a node is answered with can be taken: a reply is a text, and the text that is kept of an
answer can be read off it. -/
def CanTake (node : Node) (calls : List (Answered Call.Answer)) : Prop :=
  match node.content with
  | .aiResponse _ => ∀ request reply, ⟨.complete request, .ok reply⟩ ∈ calls →
      ∃ text, reply = .str text
  | .webhook content => ∀ request answer, ⟨.http request, .ok answer⟩ ∈ calls →
      ∃ text, readAnswer content answer = .ok text
  | _ => True

theorem takeReply_leaves {content : AiContent} {reply : Value} {context : NodeContext}
    {result : NodeResult} (done : takeReply content reply context = .ok result) :
    result.next.LeavesBy (Edge.onSuccess? context.edges) := by
  unfold takeReply at done
  dsimp only at done
  split at done
  · cases done
    exact advance_onSuccess _ _ _
  · split at done <;> cases done

/-- What a node that calls outside comes to: it leaves by its edge for success where its call has
succeeded, and can be taken; it follows its edge for failures where the call has failed and it goes on. -/
theorem evaluate_outside {services : Services} {node : Node} {context : NodeContext}
    {calls : List (Answered Call.Answer)} {outcome : Except Fault NodeResult}
    (outside : node.kind.asksOutside = true)
    (ran : Transcript (evaluate services node context) calls outcome) (whole : ¬Breaks calls outcome) :
    (isServed node calls = true ∧ (CanTake node calls → ∃ result, outcome = .ok result) ∧
        ∀ result, outcome = .ok result → result.next.LeavesBy (Edge.onSuccess? context.edges)) ∨
      (isServed node calls = false ∧ ∀ failing,
        Edge.forHandle? Edge.errorHandle context.edges = some failing → goesOnUnserved node = true →
          ∃ result, outcome = .ok result ∧
            result.next = .advance failing.target (some Edge.errorHandle)) := by
  unfold Node.kind at outside
  unfold evaluate at ran
  unfold isServed CanTake goesOnUnserved
  cases content : node.content with
  | aiResponse given =>
      rw [content] at ran
      rcases evaluateAi_comes ran with ⟨request, reply, member, rfl⟩ | ⟨unasked, rfl⟩ | broken
      · refine Or.inl ⟨replied_of_mem member, ?_, fun result done => takeReply_leaves done⟩
        intro texts
        obtain ⟨text, rfl⟩ := texts request reply member
        exact ⟨_, rfl⟩
      · refine Or.inr ⟨unasked, fun failing selected _ => ⟨_, rfl, ?_⟩⟩
        unfold aiFailure
        rw [selected]
      · exact absurd broken whole
  | webhook given =>
      rw [content] at ran
      rcases evaluateWebhook_comes ran with ⟨request, answer, member, good, came⟩ |
        ⟨unanswered, result, rfl, next⟩ | broken
      · refine Or.inl ⟨succeeded_of_mem member good, ?_, ?_⟩
        · intro readable
          obtain ⟨text, read⟩ := readable request answer member
          rcases came with ⟨result, done, _⟩ | ⟨fault, unread, _⟩
          · exact ⟨result, done⟩
          · cases read.symm.trans unread
        · intro result done
          rcases came with ⟨other, same, leaves⟩ | ⟨fault, _, same⟩
          · cases same.symm.trans done
            exact leaves
          · cases same.symm.trans done
      · refine Or.inr ⟨unanswered, fun failing selected goesOn => ⟨result, rfl, ?_⟩⟩
        unfold afterFailure at next
        rwa [if_pos goesOn, selected] at next
      · exact absurd broken whole
  | start | message | menu | input | condition | action | transfer | delay | finish =>
      rw [content] at outside
      cases outside

end Evaluation

/-- Where its call fails, a node that goes on follows the edge that it keeps for failures. Where its
call succeeds, and can be taken, it never follows that edge, but where the edge is only labelled for
failures and stands where a success looks for its own; and a lone edge that leaves by the handle for
failures is left aside. -/
theorem error_edge_spared_unless_confounded {services : Services} {node : Node}
    {context : NodeContext} {calls : List (Answered Call.Answer)} {outcome : Except Fault NodeResult}
    {failing : Edge} (outside : node.kind.asksOutside = true)
    (ran : Transcript (Evaluation.evaluate services node context) calls outcome)
    (external : ∀ request fault, ⟨request, .error fault⟩ ∈ calls →
      ∃ failure, fault = .external failure)
    (selected : Edge.forHandle? Edge.errorHandle context.edges = some failing) :
    (Evaluation.isServed node calls = true →
      (Evaluation.CanTake node calls → ∃ result, outcome = .ok result) ∧
      ∀ result, outcome = .ok result →
        result.next.LeavesBy (Edge.onSuccess? context.edges) ∧
        (Edge.onSuccess? context.edges = some failing ↔ Edge.Confounds context.edges failing) ∧
        (failing.sourceHandle = some Edge.errorHandle → (∀ edge ∈ context.edges, edge = failing) →
          result.next = .terminate .completed "no_outgoing_edge")) ∧
    (Evaluation.isServed node calls = false → Evaluation.goesOnUnserved node = true →
      ∃ result, outcome = .ok result ∧
        result.next = .advance failing.target (some Edge.errorHandle)) := by
  have whole : ¬Evaluation.Breaks calls outcome := by
    rintro ⟨request, fault, member, other, _⟩
    obtain ⟨failure, same⟩ := external request fault member
    exact other failure same
  rcases Evaluation.evaluate_outside outside ran whole with ⟨served, takes, leaves⟩ |
    ⟨unserved, fails⟩
  · refine ⟨fun _ => ⟨takes, fun result done => ⟨leaves result done, ?_, ?_⟩⟩, ?_⟩
    · exact Edge.onSuccess?_eq_failing_iff selected
    · intro handled lone
      have left := leaves result done
      rwa [Edge.onSuccess?_lone handled lone] at left
    · intro unserved
      rw [served] at unserved
      cases unserved
  · refine ⟨fun served => ?_, fun _ goesOn => fails failing selected goesOn⟩
    rw [unserved] at served
    cases served

/-! ### An edge that is only labelled -/

def failureEdge (handle label : Option String) : Edge :=
  ⟨"e-falha", "ia", "falha", handle, none, label, "default", []⟩

/-- Replies of services that say that they have failed. -/
def failing : (request : Call) → Except Fault request.Answer
  | .clock => .ok (default : Stamp)
  | _ => .error (.external ⟨"out of service", false, 502⟩)

/-- The adviser at work, with one edge that leaves it. -/
def advice (edge : Edge) : Engine NodeResult :=
  Evaluation.evaluate .all adviser { consultation with edges := [edge] }

/-- A lone edge that leaves by the handle for failures is left aside when a language model replies, and
followed when it is out of service. -/
theorem error_edge_spared_unless_confounded_advised :
    (∃ calls result, Transcript (advice (failureEdge (some "error") none)) calls (.ok result) ∧
      Evaluation.isServed adviser calls = true ∧
      result.next = .terminate .completed "no_outgoing_edge") ∧
    ∃ calls result, Transcript (advice (failureEdge (some "error") none)) calls (.ok result) ∧
      Evaluation.isServed adviser calls = false ∧
      result.next = .advance "falha" (some "error") := by
  have comes (oracle : (request : Call) → Except Fault request.Answer) :=
    @error_edge_spared_unless_confounded _ _ _ _ _ (failureEdge (some "error") none) (by decide)
      (consult_transcript oracle (advice (failureEdge (some "error") none)))
  constructor
  · have asked : ∃ request, (consult helpful (advice (failureEdge (some "error") none))).1 =
        [⟨.complete request, .ok (Value.str "Claro.")⟩] := ⟨_, rfl⟩
    obtain ⟨request, told⟩ := asked
    have ran := consult_transcript helpful (advice (failureEdge (some "error") none))
    have comes := comes helpful
    rw [told] at comes ran
    have sound (other : Call) (fault : Fault) (member : ⟨other, .error fault⟩ ∈
        ([⟨.complete request, .ok (Value.str "Claro.")⟩] : List (Answered Call.Answer))) :
        ∃ failure, fault = .external failure := by
      cases List.mem_singleton.mp member
    have text (other : AiRequest) (reply : Value) (member : ⟨.complete other, .ok reply⟩ ∈
        ([⟨.complete request, .ok (Value.str "Claro.")⟩] : List (Answered Call.Answer))) :
        ∃ text, reply = .str text := by
      cases List.mem_singleton.mp member
      exact ⟨_, rfl⟩
    obtain ⟨takes, leaves⟩ := (comes sound (by decide)).1 rfl
    obtain ⟨result, done⟩ := takes text
    refine ⟨_, result, done ▸ ran, rfl, ?_⟩
    exact (leaves result done).2.2 rfl fun edge member => List.mem_singleton.mp member
  · have asked : ∃ request, (consult failing (advice (failureEdge (some "error") none))).1 =
        [⟨.complete request, .error (.external ⟨"out of service", false, 502⟩)⟩] := ⟨_, rfl⟩
    obtain ⟨request, told⟩ := asked
    have ran := consult_transcript failing (advice (failureEdge (some "error") none))
    have comes := comes failing
    rw [told] at comes ran
    have sound (other : Call) (fault : Fault) (member : ⟨other, .error fault⟩ ∈
        ([⟨.complete request, .error (.external ⟨"out of service", false, 502⟩)⟩] :
          List (Answered Call.Answer))) : ∃ failure, fault = .external failure := by
      cases List.mem_singleton.mp member
      exact ⟨_, rfl⟩
    obtain ⟨result, done, next⟩ := (comes sound (by decide)).2 rfl rfl
    exact ⟨_, result, done ▸ ran, rfl, next⟩

/-- An edge that is only labelled for failures is followed after a success. -/
theorem labelled_error_edge_followed_on_success :
    Edge.forHandle? Edge.errorHandle [failureEdge none (some "Error")] =
        some (failureEdge none (some "Error")) ∧
    ∃ calls result, Transcript (advice (failureEdge none (some "Error"))) calls (.ok result) ∧
      Evaluation.isServed adviser calls = true ∧
      result.next = .advance (failureEdge none (some "Error")).target (some "success") := by
  have ran := consult_transcript helpful (advice (failureEdge none (some "Error")))
  have replied : (consult helpful (advice (failureEdge none (some "Error")))).2 =
      .ok ⟨[Effect.message "Claro."], .advance "falha" (some "success"),
        [("nome", "Ana"), ("cidade", "Recife"), ("resposta_ia", "Claro.")]⟩ := rfl
  rw [replied] at ran
  exact ⟨by decide, _, _, ran, rfl, rfl⟩

end ChatFlow

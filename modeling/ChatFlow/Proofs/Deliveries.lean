import ChatFlow.Engine.Dispatch
import ChatFlow.Engine.Evaluation
import ChatFlow.Engine.Trace
import ChatFlow.Proofs.Transcript
/-
What is delivered in a run of a program. Evaluating a node delivers nothing; carrying out effects
delivers each of them once and in order, but for those whose pause was broken off.
-/

set_option autoImplicit false

namespace ChatFlow

open Program

variable {α β : Type} {calls : List (Answered Call.Answer)}

def Call.delivery? : Call → Option Delivery
  | .deliver delivery => some delivery
  | _ => none

/-- The deliveries that were tried among some calls, in order. -/
def deliveries (calls : List (Answered Call.Answer)) : List Delivery :=
  calls.filterMap fun entry => entry.request.delivery?

@[simp]
theorem deliveries_nil : deliveries [] = [] := rfl

@[simp]
theorem deliveries_append (earlier later : List (Answered Call.Answer)) :
    deliveries (earlier ++ later) = deliveries earlier ++ deliveries later :=
  List.filterMap_append

theorem deliveries_cons (entry : Answered Call.Answer) (later : List (Answered Call.Answer)) :
    deliveries (entry :: later) = entry.request.delivery?.toList ++ deliveries later := by
  unfold deliveries
  rw [List.filterMap_cons]
  cases entry.request.delivery? <;> rfl

theorem deliveries_cons_store {entry : Answered Call.Answer} {request : StoreCall}
    (asked : entry.request = .store request) (later : List (Answered Call.Answer)) :
    deliveries (entry :: later) = deliveries later := by
  rw [deliveries_cons, asked]
  rfl

/-- Whether a call neither delivers anything nor writes a session nor marks timer jobs of one. -/
def Call.isQuiet : Call → Bool
  | .deliver _ | .store (.updateSession ..) | .store (.markSessionDelays _) => false
  | _ => true

def Quiet (calls : List (Answered Call.Answer)) : Prop :=
  ∀ entry ∈ calls, entry.request.isQuiet = true

theorem quiet_nil : Quiet [] := fun _ member => nomatch member

@[simp]
theorem quiet_cons (entry : Answered Call.Answer) (later : List (Answered Call.Answer)) :
    Quiet (entry :: later) ↔ entry.request.isQuiet = true ∧ Quiet later :=
  List.forall_mem_cons

@[simp]
theorem quiet_append (earlier later : List (Answered Call.Answer)) :
    Quiet (earlier ++ later) ↔ Quiet earlier ∧ Quiet later :=
  List.forall_mem_append

theorem Quiet.silent (quiet : Quiet calls) : deliveries calls = [] := by
  apply List.filterMap_eq_nil_iff.mpr
  intro entry member
  have other := quiet entry member
  cases asked : entry.request with
  | deliver delivery =>
      rw [asked] at other
      cases other
  | store | clock | complete | http | history | sleep => rfl

/-! ### Single calls -/

theorem now_calls {result : Except Fault Stamp} (ran : Transcript Engine.now calls result) :
    calls = [⟨.clock, result⟩] :=
  @Transcript.of_perform _ _ _ Call.clock _ ran

theorem store_calls {request : StoreCall} {result : Except Fault request.Answer}
    (ran : Transcript (Engine.store request) calls result) :
    calls = [⟨.store request, result⟩] :=
  @Transcript.of_perform _ _ _ (Call.store request) _ ran

theorem now_first {next : Stamp → Engine α} {result : Except Fault α}
    (ran : Transcript (Engine.now >>= next) calls result) :
    (∃ now rest, calls = ⟨.clock, .ok now⟩ :: rest ∧ Transcript (next now) rest result) ∨
      ∃ fault, calls = [⟨.clock, .error fault⟩] ∧ result = .error fault := by
  rcases Transcript.of_bind ran with ⟨now, earlier, later, rfl, asked, rest⟩ | ⟨fault, asked, rfl⟩
  · rw [now_calls asked]
    exact Or.inl ⟨now, later, rfl, rest⟩
  · rw [now_calls asked]
    exact Or.inr ⟨fault, rfl, rfl⟩

theorem store_first {request : StoreCall} {next : request.Answer → Engine α}
    {result : Except Fault α} (ran : Transcript (Engine.store request >>= next) calls result) :
    (∃ value rest, calls = ⟨.store request, .ok value⟩ :: rest ∧
      Transcript (next value) rest result) ∨
      ∃ fault, calls = [⟨.store request, .error fault⟩] ∧ result = .error fault := by
  rcases Transcript.of_bind ran with ⟨value, earlier, later, rfl, asked, rest⟩ | ⟨fault, asked, rfl⟩
  · rw [store_calls asked]
    exact Or.inl ⟨value, later, rfl, rest⟩
  · rw [store_calls asked]
    exact Or.inr ⟨fault, rfl, rfl⟩

/-- The store is asked for something whose answer is not used. -/
theorem stored_first {request : StoreCall} {next : Unit → Engine α} {result : Except Fault α}
    (ran : Transcript (discard (Engine.store request) >>= next) calls result) :
    (∃ value rest, calls = ⟨.store request, .ok value⟩ :: rest ∧
      Transcript (next ()) rest result) ∨
      ∃ fault, calls = [⟨.store request, .error fault⟩] ∧ result = .error fault := by
  rcases Transcript.of_bind ran with ⟨value, earlier, later, rfl, asked, rest⟩ | ⟨fault, asked, rfl⟩
  · obtain ⟨inner, asked, failed⟩ := Transcript.of_discard asked
    rw [store_calls asked]
    cases inner with
    | ok value => exact Or.inl ⟨value, later, rfl, rest⟩
    | error fault => cases (failed fault).mpr rfl
  · obtain ⟨inner, asked, failed⟩ := Transcript.of_discard asked
    rw [store_calls asked, (failed fault).mp rfl]
    exact Or.inr ⟨fault, rfl, rfl⟩

/-! ### Programs that make calls of one kind only -/

/-- Every call of a program is of a kind, whatever is answered. -/
structure Makes (kind : Call → Prop) (program : Engine α) : Prop where
  keeps : ∀ past, Keeps (fun _ request => kind request) program past

/-- A program that makes quiet calls only. -/
abbrev KeepsQuiet (program : Engine α) : Prop := Makes (fun request => request.isQuiet = true) program

namespace Makes

variable {kind : Call → Prop}

theorem all {program : Engine α} (makes : Makes kind program) {result : Except Fault α}
    (ran : Transcript program calls result) : ∀ entry ∈ calls, kind entry.request :=
  ran.allowed (makes.keeps [])

theorem mono {other : Call → Prop} {program : Engine α} (makes : Makes kind program)
    (implies : ∀ request, kind request → other request) : Makes other program :=
  ⟨fun past => (makes.keeps past).loosen fun _ => implies⟩

theorem done (value : α) : Makes kind (pure value : Engine α) := ⟨fun _ => Follows.done trivial⟩

theorem fail (fault : Fault) : Makes kind (.fail fault : Engine α) :=
  ⟨fun _ => Follows.fail trivial⟩

theorem ofExcept (given : Except Fault α) : Makes kind (Program.ofExcept given) := by
  cases given with
  | ok value => exact done value
  | error fault => exact fail fault

theorem perform {request : Call} (fits : kind request) : Makes kind (Program.perform request) :=
  ⟨fun _ => (Follows.perform fits).keeps⟩

theorem now (fits : kind .clock) : Makes kind Engine.now := perform fits

theorem store {request : StoreCall} (fits : kind (.store request)) :
    Makes kind (Engine.store request) :=
  perform fits

theorem bind {first : Engine β} {next : β → Engine α} (start : Makes kind first)
    (rest : ∀ value, Makes kind (next value)) : Makes kind (first >>= next) :=
  ⟨fun past => (start.keeps past).andThen fun value later _ _ => (rest value).keeps later⟩

theorem outcome {program : Engine α} (makes : Makes kind program) :
    Makes kind (Program.outcome program) :=
  ⟨fun past => (makes.keeps past).outcome.keeps⟩

theorem discarded {program : Engine α} (makes : Makes kind program) :
    Makes kind (discard program) :=
  makes.bind fun _ => done ()

end Makes

/-! ### Evaluations -/

namespace Evaluation

theorem unlessExternal_makes {kind : Call → Prop} {program : Engine α}
    (makes : Makes kind program) : Makes kind (unlessExternal program) := by
  apply makes.outcome.bind
  intro result
  cases result with
  | ok value => exact .done _
  | error fault =>
      cases fault with
      | external failure => exact .done _
      | _ => exact .fail _

theorem historyTurns_makes {kind : Call → Prop} {content : AiContent} {conversation : String}
    (services : Services) (fits : kind (.history conversation content.historyLimit)) :
    Makes kind (historyTurns services content conversation) := by
  unfold historyTurns
  split
  · apply (unlessExternal_makes (.perform fits)).bind
    intro result
    cases result <;> exact .done _
  · exact .done _

theorem evaluateAi_quiet (services : Services) (content : AiContent) (context : NodeContext) :
    KeepsQuiet (evaluateAi services content context) := by
  unfold evaluateAi
  split
  · exact .done _
  · refine Makes.bind (historyTurns_makes services rfl) fun turns => ?_
    refine Makes.bind (unlessExternal_makes (.perform rfl)) fun result => ?_
    cases result with
    | ok reply => exact .ofExcept _
    | error failure => exact .done _

theorem sendRequest_makes {kind : Call → Prop} (services : Services) {content : WebhookContent}
    (url : String) {context : NodeContext}
    (fits : ∀ request : HttpRequest, request.body = requestBody content context.bag →
      kind (.http request)) : Makes kind (sendRequest services content url context) := by
  unfold sendRequest
  split
  · exact .done _
  · split
    · exact .done _
    · refine Makes.bind (unlessExternal_makes (.perform (fits _ rfl))) fun result => ?_
      cases result with
      | ok answer => dsimp only; split <;> exact .done _
      | error failure => exact .done _

/-- A node that sends a request sends the body that is filled in with the variables of its session, and
makes no other call. -/
theorem evaluateWebhook_makes {kind : Call → Prop} (services : Services) {content : WebhookContent}
    {context : NodeContext}
    (fits : ∀ request : HttpRequest, request.body = requestBody content context.bag →
      kind (.http request)) : Makes kind (evaluateWebhook services content context) := by
  unfold evaluateWebhook
  dsimp only
  apply (sendRequest_makes services _ fits).bind
  intro outcome
  cases outcome.result with
  | ok answer =>
      dsimp only
      split
      · exact (Makes.done _).bind fun _ => .done _
      · exact (Makes.ofExcept _).bind fun _ => (Makes.done _).bind fun _ => .done _
  | error error =>
      dsimp only
      split
      · exact .done _
      · split <;> exact .done _

theorem evaluate_quiet (services : Services) (node : Node) (context : NodeContext) :
    KeepsQuiet (evaluate services node context) := by
  unfold evaluate
  cases node.content with
  | menu content => exact .ofExcept _
  | delay content => exact .ofExcept _
  | aiResponse content => exact evaluateAi_quiet services content context
  | webhook content => exact evaluateWebhook_makes services fun _ _ => rfl
  | _ => exact .done _

end Evaluation

theorem Engine.flush_makes {kind : Call → Prop} {rows : List LogEntry}
    (fits : kind (.store (.saveLogs rows))) : Makes kind (Engine.flush rows) := by
  unfold Engine.flush
  split
  · exact .done _
  · exact (Makes.perform fits).outcome.discarded

theorem Engine.flush_keepsQuiet (rows : List LogEntry) : KeepsQuiet (Engine.flush rows) :=
  flush_makes rfl

theorem Engine.flush_result {rows : List LogEntry} {result : Except Fault Unit}
    (ran : Transcript (Engine.flush rows) calls result) : result = .ok () := by
  unfold Engine.flush at ran
  split at ran
  · exact (Transcript.of_done ran).2
  · obtain ⟨inner, tried, failed⟩ := Transcript.of_discard ran
    obtain ⟨reply, rfl, _⟩ := Transcript.of_outcome tried
    cases result with
    | ok value => rfl
    | error fault => cases (failed fault).mp rfl

/-! ### Carrying out effects -/

/-- A pause before a delivery was broken off. -/
def Roused (calls : List (Answered Call.Answer)) : Prop :=
  ∃ seconds fault, (⟨.sleep seconds, .error fault⟩ : Answered Call.Answer) ∈ calls

theorem Roused.append_left {earlier : List (Answered Call.Answer)} (roused : Roused earlier)
    (later : List (Answered Call.Answer)) : Roused (earlier ++ later) := by
  obtain ⟨seconds, fault, member⟩ := roused
  exact ⟨seconds, fault, List.mem_append_left later member⟩

theorem Roused.append_right {later : List (Answered Call.Answer)} (roused : Roused later)
    (earlier : List (Answered Call.Answer)) : Roused (earlier ++ later) := by
  obtain ⟨seconds, fault, member⟩ := roused
  exact ⟨seconds, fault, List.mem_append_right earlier member⟩

namespace Effect

/-- The deliveries that some effects ask for. -/
def deliveriesOf (organization conversation : String) (effects : List Effect) : List Delivery :=
  effects.filterMap (delivery? organization conversation)

/-- The calls are those that carry out some effects: each one is tried at most once and in order, and
each one is tried unless a pause was broken off. -/
structure CarriedOut (organization conversation : String) (effects : List Effect)
    (calls : List (Answered Call.Answer)) : Prop where
  most : (deliveries calls).Sublist (deliveriesOf organization conversation effects)
  all : ¬Roused calls → deliveries calls = deliveriesOf organization conversation effects

theorem CarriedOut.append {organization conversation : String} {first rest : List Effect}
    {earlier later : List (Answered Call.Answer)}
    (start : CarriedOut organization conversation first earlier)
    (more : CarriedOut organization conversation rest later) :
    CarriedOut organization conversation (first ++ rest) (earlier ++ later) := by
  constructor
  · unfold deliveriesOf
    rw [deliveries_append, List.filterMap_append]
    exact start.most.append more.most
  · intro slept
    have first := start.all fun roused => slept (roused.append_left later)
    have others := more.all fun roused => slept (roused.append_right earlier)
    unfold deliveriesOf at *
    rw [deliveries_append, List.filterMap_append, first, others]

theorem attempt_deliveries {effect : Effect} {delivery : Delivery} {result : Except Fault Unit}
    (ran : Transcript (do
      match effect.pause? with
      | some seconds => Engine.sleep seconds
      | none => pure ()
      Engine.deliver delivery) calls result) :
    deliveries calls = [delivery] ∨ deliveries calls = [] ∧ Roused calls := by
  have delivered {later : List (Answered Call.Answer)}
      (last : Transcript (Engine.deliver delivery) later result) : deliveries later = [delivery] := by
    have only := @Transcript.of_perform _ _ _ (Call.deliver delivery) _ last
    rw [only]
    rfl
  split at ran
  · next seconds _ =>
      rcases Transcript.of_bind ran with ⟨_, earlier, later, rfl, slept, last⟩ | ⟨fault, slept, _⟩
      · have only := @Transcript.of_perform _ _ _ (Call.sleep seconds) _ slept
        rw [only, deliveries_append, delivered last]
        exact Or.inl rfl
      · have only := @Transcript.of_perform _ _ _ (Call.sleep seconds) _ slept
        rw [only]
        exact Or.inr ⟨rfl, seconds, fault, List.mem_cons_self⟩
  · exact Or.inl (delivered ran)

theorem dispatch_carriedOut {organization conversation : String} {effect : Effect}
    {result : Except Fault Bool}
    (ran : Transcript (dispatch organization conversation effect) calls result) :
    CarriedOut organization conversation [effect] calls ∧ ∃ well, result = .ok well := by
  unfold dispatch at ran
  split at ran
  · next none_ =>
      obtain ⟨rfl, rfl⟩ := Transcript.of_done ran
      exact ⟨⟨by simp, by simp [deliveriesOf, none_]⟩, _, rfl⟩
  · next delivery found =>
      have image : deliveriesOf organization conversation [effect] = [delivery] := by
        simp [deliveriesOf, found]
      rcases Transcript.of_bind ran with ⟨attempt, earlier, later, rfl, tried, rest⟩ | ⟨_, tried, _⟩
      · obtain ⟨inner, _, tried⟩ := Transcript.of_outcome tried
        have settled : later = [] ∧ ∃ well, result = .ok well := by
          cases attempt with
          | ok value => exact ⟨(Transcript.of_done rest).1, _, (Transcript.of_done rest).2⟩
          | error fault => exact ⟨(Transcript.of_done rest).1, _, (Transcript.of_done rest).2⟩
        obtain ⟨rfl, well⟩ := settled
        rw [List.append_nil]
        refine ⟨?_, well⟩
        rcases attempt_deliveries tried with sent | ⟨nothing, roused⟩
        · have same := sent.trans image.symm
          exact ⟨same ▸ List.Sublist.refl _, fun _ => same⟩
        · refine ⟨?_, fun slept => absurd roused slept⟩
          rw [nothing]
          exact List.nil_sublist _
      · obtain ⟨_, same, _⟩ := Transcript.of_outcome tried
        cases same

/-- Effects are carried out by deliveries, and by pauses before them. -/
theorem dispatchAll_makes {kind : Call → Prop} (delivers : ∀ delivery, kind (.deliver delivery))
    (sleeps : ∀ seconds, kind (.sleep seconds)) (organization conversation : String)
    (effects : List Effect) : Makes kind (dispatchAll organization conversation effects) := by
  induction effects with
  | nil => exact .done _
  | cons effect rest ih =>
      refine Makes.bind (Makes.discarded ?_) fun _ => ih
      unfold dispatch
      split
      · exact .done _
      · next delivery _ =>
          have delivering : Makes kind (Engine.deliver delivery) := .perform (delivers delivery)
          refine Makes.bind (Makes.outcome ?_) fun attempt => by cases attempt <;> exact .done _
          split
          · exact (Makes.perform (sleeps _)).bind fun _ => delivering
          · exact (Makes.done ()).bind fun _ => delivering

/-- Effects are carried out to the end, whatever fails on the way. -/
theorem dispatchAll_carriedOut {organization conversation : String} {effects : List Effect}
    {result : Except Fault Unit}
    (ran : Transcript (dispatchAll organization conversation effects) calls result) :
    CarriedOut organization conversation effects calls ∧ result = .ok () := by
  induction effects generalizing calls with
  | nil =>
      obtain ⟨rfl, rfl⟩ := Transcript.of_done ran
      exact ⟨⟨by simp, fun _ => rfl⟩, rfl⟩
  | cons effect rest ih =>
      rcases Transcript.of_bind ran with ⟨_, earlier, later, rfl, first, more⟩ | ⟨fault, first, rfl⟩
      · obtain ⟨inner, first, _⟩ := Transcript.of_discard first
        obtain ⟨others, done⟩ := ih more
        exact ⟨(dispatch_carriedOut first).1.append others, done⟩
      · obtain ⟨inner, first, failed⟩ := Transcript.of_discard first
        obtain ⟨_, well, same⟩ := dispatch_carriedOut first
        rw [same] at failed
        cases (failed fault).mp rfl

end Effect

end ChatFlow

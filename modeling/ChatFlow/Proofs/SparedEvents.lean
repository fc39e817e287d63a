import ChatFlow.Proofs.BrokenSearches
import ChatFlow.Proofs.FlowWrites
import ChatFlow.Proofs.Likeness
/-
Stores and events without the keywords that are no patterns. A store that loses these keywords answers
as before, but for them; and the event of a message comes to the same end when it is answered without
them, unless it ends with a search that such a keyword breaks off.
-/

set_option autoImplicit false

namespace ChatFlow

open Program Text

/-! ### Stores -/

namespace Store

/-- A store whose flows are without the keywords that cannot be matched. -/
def pruned (store : Store) : Store :=
  { store with flows := Table.mapValues Flow.pruned store.flows }

end Store

/-- What is left of a reply of the store when flows lose the keywords that cannot be matched. -/
def StoreCall.prunedReply : (request : StoreCall) → Except Fault request.Answer →
    Except Fault request.Answer
  | .getFlow _, reply => reply.map (Option.map Flow.pruned)
  | .getOwnedFlow .., reply => reply.map (Option.map Flow.pruned)
  | .flowsOf _, reply => reply.map (List.map Flow.pruned)
  | .triggerCandidates _, reply => reply.map (List.map Flow.pruned)
  | _, reply => reply

namespace Store

variable {store : Store} {organization : String} {connection text : Option String} {now : Stamp}
  {fault : Fault}

/-- The search for the flow of a message comes to a keyword that breaks it off. -/
structure BrokenOff (store : Store) (organization : String) (connection text : Option String)
    (fault : Fault) : Prop where
  spoken : (trim (text.getD "")).isEmpty = false
  comes : ∃ flows, store.triggerCandidates organization = .ok flows ∧
    Trigger.BrokenOff connection (trim (text.getD "")) fault flows

end Store

/-! ### Runs -/

def Call.prunedReply : (request : Call) → Except Fault request.Answer → Except Fault request.Answer
  | .store request, reply => request.prunedReply reply
  | _, reply => reply

/-- Calls with what is left of their replies when flows lose the keywords that cannot be matched. -/
def pruned (calls : List (Answered Call.Answer)) : List (Answered Call.Answer) :=
  calls.map fun entry => ⟨entry.request, entry.request.prunedReply entry.reply⟩

namespace Run

variable {settings : EngineSettings}

end Run

/-! ### Events -/

namespace Trigger

variable {organization : String} {connection text : Option String}

end Trigger

namespace Event

variable {settings : EngineSettings} {message : InboundMessage} {α β : Type}

/-- The event of a message ends with a search that a keyword breaks off. -/
inductive BrokenOff (message : InboundMessage) :
    List (Answered Call.Answer) → Except Fault α → Prop
  | search (before : List (Answered Call.Answer)) {flows : List Flow} {fault : Fault}
      (comes : Trigger.BrokenOff message.connection (trim (message.text.getD "")) fault flows) :
      BrokenOff message
        (before ++ [⟨.store (.triggerCandidates message.organization), .ok flows⟩]) (.error fault)

theorem BrokenOff.fails {calls : List (Answered Call.Answer)} {result : Except Fault α}
    (broken : BrokenOff message calls result) : ∃ fault, result = .error fault := by
  cases broken with
  | search before comes => exact ⟨_, rfl⟩

theorem BrokenOff.after {calls : List (Answered Call.Answer)} {result : Except Fault α}
    (broken : BrokenOff message calls result) (earlier : List (Answered Call.Answer)) :
    BrokenOff message (earlier ++ calls) result := by
  cases broken with
  | search before comes =>
      rw [← List.append_assoc]
      exact .search _ comes

/-- A program comes to the same result where flows lose the keywords that cannot be matched, unless a
search is broken off. -/
def Spared (message : InboundMessage) (program : Engine α) : Prop :=
  ∀ calls result, Transcript program calls result →
    BrokenOff message calls result ∨ Transcript program (pruned calls) result

namespace Spared

theorem bind {first : Engine β} {next : β → Engine α} (start : Spared message first)
    (rest : ∀ value, Spared message (next value)) : Spared message (first >>= next) := by
  intro calls result ran
  rcases Transcript.of_bind ran with ⟨value, earlier, later, rfl, begun, going⟩ | ⟨fault, failed, rfl⟩
  · rcases start _ _ begun with broken | begun
    · cases broken
    · rcases rest value _ _ going with broken | going
      · exact Or.inl (broken.after earlier)
      · right
        rw [pruned, List.map_append]
        exact begun.bind_ok going
  · rcases start _ _ failed with broken | failed
    · cases broken with
      | search before comes => exact Or.inl (.search before comes)
    · exact Or.inr failed.bind_error

/-- A program fares alike, if what it does with a flow from the store does not depend on keywords. -/
theorem getFlow {id : String} {next : Option Flow → Engine α}
    (same : ∀ flow, next (flow.map Flow.pruned) = next flow) (rest : ∀ flow, Spared message (next flow)) :
    Spared message (Engine.store (.getFlow id) >>= next) := by
  intro calls result ran
  rcases store_first ran with ⟨flow, later, rfl, going⟩ | ⟨fault, rfl, rfl⟩
  · rcases rest flow _ _ going with broken | going
    · exact Or.inl (broken.after [_])
    · right
      rw [← same flow] at going
      have told : Transcript (Engine.store (.getFlow id))
          [⟨.store (.getFlow id), .ok (flow.map Flow.pruned)⟩] (.ok (flow.map Flow.pruned)) :=
        .perform _
      exact told.bind_ok going
  · exact Or.inr ran

end Spared

end Event

namespace Store

end Store

/-- Neither keyword of the flow matches. -/
def farewell : InboundMessage := ⟨"org_1", none, "conv_1", some "tchau", "text", none, none⟩

namespace Trigger

end Trigger

end ChatFlow

import ChatFlow.Proofs.Errands
import ChatFlow.Proofs.Transcript
/-
Events as workers carry them out. From the begin of an event to its end a worker does what the program
of the event says, and what it was told makes a transcript of that program, whatever the other workers
do meanwhile.
-/

set_option autoImplicit false

namespace ChatFlow

open Program

/-- A worker has come to the result of its event. -/
def Worker.Ends (worker : Worker) : Except Fault (Option EventReport) → Prop
  | .ok report => worker.rest = .done report
  | .error fault => worker.rest = .fail fault

namespace Workplace

variable {ι : Type} {index : ι} {before middle after : Workplace ι}

/-- A step after which a worker is still at its event. -/
structure Stays (index : ι) (before after : Workplace ι) : Prop where
  step : Step before after
  same : after.worker index = before.worker index ∨
    ∃ entry, (after.worker index).past = entry :: (before.worker index).past

/-- Steps in which a worker begins no other event. -/
abbrev Onward (index : ι) : Workplace ι → Workplace ι → Prop :=
  Relation.ReflTransGen (Stays index)

section

variable {rule : EnginePast → Call → Prop}
  {post : EnginePast → Except Fault (Option EventReport) → Prop}

theorem Stays.follows (stays : Stays index before after)
    (follows : Follows rule post (before.worker index).rest (before.worker index).past) :
    Follows rule post (after.worker index).rest (after.worker index).past := by
  have moved {worker : Worker} {other : ι} (turn : Turn before after other worker)
      (goes : other = index → Follows rule post worker.rest worker.past) :
      Follows rule post (after.worker index).rest (after.worker index).past := by
    by_cases own : index = other
    · rw [own, turn.1]
      exact goes own.symm
    · rw [turn.2 index own]
      exact follows
  cases stays.step with
  | tick later => exact follows
  | begin settings operation idle same turn =>
      rcases stays.same with same | ⟨entry, grown⟩
      · rw [same]
        exact follows
      · apply moved turn
        intro own
        subst own
        rw [turn.1] at grown
        cases grown
  | answer calls answers turn =>
      apply moved turn
      intro own
      subst own
      rw [calls] at follows
      exact follows.at_call.2 _
  | refuse calls same turn =>
      apply moved turn
      intro own
      subst own
      rw [calls] at follows
      exact follows.at_call.2 _

theorem Onward.follows (onward : Onward index before after)
    (follows : Follows rule post (before.worker index).rest (before.worker index).past) :
    Follows rule post (after.worker index).rest (after.worker index).past := by
  induction onward with
  | refl => exact follows
  | tail _ stays ih => exact stays.follows ih

theorem Begun.follows {settings : EngineSettings} {operation : Operation}
    (begun : Begun before middle index settings operation) (onward : Onward index middle after)
    (follows : Follows rule post (operation.program settings) []) :
    Follows rule post (after.worker index).rest (after.worker index).past := by
  apply onward.follows
  rw [begun.turn.1]
  exact follows

end

theorem GoesOn.stays {refusable : StoreCall → Prop} (goes : GoesOn index refusable before after) :
    Stays index before after := by
  refine ⟨goes.step, ?_⟩
  cases goes with
  | tick later => exact Or.inl rfl
  | answer calls answers turn => exact Or.inr ⟨_, by rw [turn.1, calls]⟩
  | refuse may calls same turn => exact Or.inr ⟨_, by rw [turn.1, calls]⟩

theorem Alone.onward {refusable : StoreCall → Prop} (alone : Alone index refusable before after) :
    Onward index before after :=
  Relation.ReflTransGen.mono (fun _ _ => GoesOn.stays) _ _ alone

theorem Onward.steps (onward : Onward index before after) : Steps before after :=
  Relation.ReflTransGen.mono (fun _ _ => Stays.step) _ _ onward

/-- What a worker was told in its event is a transcript of the program of the event. -/
theorem Begun.transcript {settings : EngineSettings} {operation : Operation}
    (begun : Begun before middle index settings operation) (onward : Onward index middle after)
    {result : Except Fault (Option EventReport)} (ends : (after.worker index).Ends result) :
    Transcript (operation.program settings) (after.worker index).past.reverse result := by
  have follows := begun.follows onward (Follows.recorded (operation.program settings))
  unfold Worker.Ends at ends
  cases result with
  | ok report =>
      rw [ends] at follows
      exact follows.at_done
  | error fault =>
      rw [ends] at follows
      exact follows.at_fail

end Workplace

/-! ### A short flow -/

/-- A flow of one node after its start. -/
def shortFlow (organization : String) (content : Content) : Flow :=
  { pausingFlow 0 with
    organization := organization
    nodes := [⟨"start", none, Position.origin, .start ⟨[]⟩, []⟩,
      ⟨"node", none, Position.origin, content, []⟩]
    edges := [⟨"e1", "start", "node", none, none, none, "default", []⟩] }

/-- A conversation is handed to an agent after a word to the contact. -/
def handOver : Content :=
  .transfer ⟨.agent, none, some "agent_7", none, some "Um momento", true, []⟩

namespace Workplace

/-- A place with one worker and one flow. -/
def stocked (flow : Flow) : Workplace Unit :=
  (emptyPlace Unit).play sampleSettings [.order () (.install flow), .go ()]

theorem stocked_reached (flow : Flow) : Reached (stocked flow) := Reached.play (.start default) _

/-- The worker there has begun an event. -/
def opened (flow : Flow) (operation : Operation) : Workplace Unit :=
  (stocked flow).set (stocked flow).scene () ⟨[], operation.program sampleSettings⟩

theorem opened_begun (flow : Flow) (operation : Operation) :
    Begun (stocked flow) (opened flow operation) () sampleSettings operation where
  idle := trivial
  same := rfl
  turn := (stocked flow).set_turn _ () _

end Workplace

end ChatFlow

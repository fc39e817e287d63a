import ChatFlow.Engine.Effect
import ChatFlow.Session.Basic
/-
What the engine reports of one event: a message, a timer, a manual start or a cancellation.
-/

namespace ChatFlow

open Schema

inductive EventStatus where
  | waitingInput | waitingTimer | completed | failed | cancelled | ignored | noTrigger | conflict
  deriving DecidableEq, Repr

instance : Words EventStatus where
  values := [.waitingInput, .waitingTimer, .completed, .failed, .cancelled, .ignored, .noTrigger,
    .conflict]
  word
    | .waitingInput => "waiting_input"
    | .waitingTimer => "waiting_timer"
    | .completed => "completed"
    | .failed => "failed"
    | .cancelled => "cancelled"
    | .ignored => "ignored"
    | .noTrigger => "no_trigger"
    | .conflict => "conflict"

def Outcome.sessionStatus : Outcome → SessionStatus
  | .completed => .completed
  | .failed => .failed
  | .cancelled => .cancelled

def Outcome.eventStatus : Outcome → EventStatus
  | .completed => .completed
  | .failed => .failed
  | .cancelled => .cancelled

structure EventReport where
  status : EventStatus
  session : Option String
  flow : Option String
  node : Option String
  endReason : Option String
  steps : Nat
  effects : List Effect
  deriving DecidableEq, Repr

namespace EventReport

def bare (status : EventStatus) : EventReport := ⟨status, none, none, none, none, 0, []⟩

/-- A report on a session; the reason is that of the session unless another one is given. -/
def ofSession (status : EventStatus) (session : Session) (reason : Option String) :
    EventReport where
  status := status
  session := session.id
  flow := some session.flow
  node := some session.currentNode
  endReason := reason <|> session.endReason
  steps := 0
  effects := []

def isHandled (report : EventReport) : Bool :=
  report.status ≠ .noTrigger && report.status ≠ .ignored

def toValue (report : EventReport) : Value :=
  .obj [("status", wordValue report.status), ("session_id", .ofText? report.session),
    ("flow_id", .ofText? report.flow), ("current_node_id", .ofText? report.node),
    ("end_reason", .ofText? report.endReason), ("steps", .int report.steps),
    ("effects", .arr (report.effects.map Effect.toValue))]

end EventReport

end ChatFlow

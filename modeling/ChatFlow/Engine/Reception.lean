import ChatFlow.Engine.Event
/-
What the messaging service is told of a message that it has forwarded.
-/

namespace ChatFlow

/-- The answer to a forwarded message. -/
structure Receipt where
  status : String
  message : String
  triggered : Bool
  flow : Option String
  session : Option String
  node : Option String
  errorDetails : Option String
  deriving DecidableEq, Repr

namespace Receipt

def describe : EventStatus → String
  | .waitingInput => "Flow is waiting for the contact's reply"
  | .waitingTimer => "Flow is waiting for a delay to elapse"
  | .completed => "Flow completed"
  | .failed => "Flow stopped with an error"
  | .cancelled => "Flow cancelled"
  | .ignored => "Message ignored by flow automation"
  | .noTrigger => "No trigger matched"
  | .conflict => "Conversation is being processed concurrently, try again"

def ofReport (report : EventReport) : Receipt where
  status := wordOf report.status
  message := describe report.status
  triggered := report.isHandled
  flow := report.flow
  session := report.session
  node :=
    if report.status = .waitingInput || report.status = .waitingTimer then report.node else none
  errorDetails :=
    if report.status = .failed || report.status = .conflict then report.endReason else none

/-- The answer when a message could not be handled at all. -/
def ofFault (details : String) : Receipt where
  status := "error"
  message := "Error processing webhook message"
  triggered := false
  flow := none
  session := none
  node := none
  errorDetails := some details

def toValue (receipt : Receipt) : Value :=
  .obj [("status", .str receipt.status), ("message", .str receipt.message),
    ("automation_triggered", .bool receipt.triggered), ("flow_id", .ofText? receipt.flow),
    ("session_id", .ofText? receipt.session), ("current_node_id", .ofText? receipt.node),
    ("error_details", .ofText? receipt.errorDetails)]

end Receipt

/-- Handles a forwarded message. -/
def receive (settings : EngineSettings) (message : InboundMessage) : Engine Receipt := do
  return Receipt.ofReport (← Event.inbound settings message)

end ChatFlow

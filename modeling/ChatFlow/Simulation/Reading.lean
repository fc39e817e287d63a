import ChatFlow.Flow.Request
import ChatFlow.Engine.Effect
/-
Reading one record of a named kind and showing it in full: its members with all defaults, and what
is computed from them.
-/

namespace ChatFlow.Reading

open Schema

/-- A shown record: its value, with further results beside it. -/
def shown (value : Value) (further : Table Value) : Value := .obj (("value", value) :: further)

def nodeResults (node : Node) : Table Value :=
  match node.content with
  | .transfer content => [("target_id", .str content.targetId)]
  | .delay content => [("total_seconds", .int content.totalSeconds)]
  | _ => []

def flowResults (flow : Flow) : Table Value :=
  match flow.summary? with
  | some summary => [("summary", summary)]
  | none => []

/-- Reads a record and shows its members. -/
def display {α : Type} (ofMembers : Table Value → Checked α) (toMembers : α → Table Value)
    (value : Value) : Checked Value :=
  (decodeRecord .notRecord ofMembers value).map fun record =>
    shown (.obj (Value.toPlainMembers (toMembers record))) []

/-- Reads a record of a named kind; `none` for an unknown name. -/
def read? (now : Stamp) (kind : String) (value : Value) : Option (Checked Value) :=
  match kind with
  | "node" => some ((Node.decode value).map fun node =>
      shown (.obj node.toMembers) (nodeResults node))
  | "edge" => some ((Edge.codec.decode value).map fun edge => shown (.obj edge.toMembers) [])
  | "rule" => some ((ConditionRule.codec.decode value).map fun rule =>
      shown (.obj rule.toMembers) [])
  | "effect" => some ((Effect.decode value).map fun effect => shown effect.toValue [])
  | "flow" => some ((Flow.decode now value).map fun flow => shown flow.toValue (flowResults flow))
  | "create_request" => some (display NewFlow.ofMembers NewFlow.toMembers value)
  | "update_request" => some ((decodeRecord .notRecord FlowUpdate.ofMembers value).map
      fun update => shown (.obj update.toMembers) [("set", .ofTexts update.given)])
  | "canvas_request" => some (display CanvasRequest.ofMembers CanvasRequest.toMembers value)
  | "start_request" => some (display StartRequest.ofMembers StartRequest.toMembers value)
  | "webhook_request" => some (display InboundMessage.ofMembers InboundMessage.toMembers value)
  | _ => none

end ChatFlow.Reading

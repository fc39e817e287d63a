import ChatFlow.Schema.Codec
import ChatFlow.Graph.Content
/-
Rows of the execution log of a conversation.
-/

namespace ChatFlow

open Schema

inductive LogKind where
  | nodeStart | transition | waitingInput | waitingTimer | flowComplete | error
  deriving DecidableEq, Repr

instance : Words LogKind where
  values := [.nodeStart, .transition, .waitingInput, .waitingTimer, .flowComplete, .error]
  word
    | .nodeStart => "node_start"
    | .transition => "transition"
    | .waitingInput => "waiting_input"
    | .waitingTimer => "waiting_timer"
    | .flowComplete => "flow_complete"
    | .error => "error"

structure LogEntry where
  id : Option String
  organization : String
  conversation : String
  session : Option String
  flow : String
  kind : LogKind
  node : Option String
  nodeType : Option String
  fromNode : Option String
  toNode : Option String
  handle : Option String
  step : Option Int
  message : Option String
  bag : Option (Table String)
  createdAt : Stamp
  deriving DecidableEq, Repr

namespace LogEntry

def ofMembers (now : Stamp) (members : Table Value) : Checked LogEntry :=
  mk <$> withDefault (.optional .text) "id" none members
    <*> required .text "organization_id" members
    <*> required .text "conversation_id" members
    <*> withDefault (.optional .text) "session_id" none members
    <*> required .text "flow_id" members
    <*> required (.word LogKind .unknownWord) "log_type" members
    <*> withDefault (.optional .text) "node_id" none members
    <*> withDefault (.optional .text) "node_type" none members
    <*> withDefault (.optional .text) "from_node_id" none members
    <*> withDefault (.optional .text) "to_node_id" none members
    <*> withDefault (.optional .text) "handle" none members
    <*> withDefault (.optional .integer) "step" none members
    <*> withDefault (.optional .text) "message" none members
    <*> withDefault (.optional .textTable) "variables" none members
    <*> withDefault .stamp "created_at" now members

def decode (now : Stamp) : Value → Checked LogEntry := decodeRecord .notRecord (ofMembers now)

def documentMembers (entry : LogEntry) : Table Value :=
  [("organization_id", .str entry.organization), ("conversation_id", .str entry.conversation),
    ("session_id", .ofText? entry.session), ("flow_id", .str entry.flow),
    ("log_type", wordValue entry.kind), ("node_id", .ofText? entry.node),
    ("node_type", .ofText? entry.nodeType), ("from_node_id", .ofText? entry.fromNode),
    ("to_node_id", .ofText? entry.toNode), ("handle", .ofText? entry.handle),
    ("step", .ofInt? entry.step), ("message", .ofText? entry.message),
    ("variables", (entry.bag.map Value.ofTextTable).getD .null),
    ("created_at", .stamp entry.createdAt)]

def toMembers (entry : LogEntry) : Table Value := ("id", .ofText? entry.id) :: entry.documentMembers

def toValue (entry : LogEntry) : Value := .obj entry.toMembers

end LogEntry

end ChatFlow

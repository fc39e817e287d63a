import ChatFlow.Schema.Codec
import ChatFlow.Variable.Bag
import ChatFlow.Graph.Content
/-
Sessions: the state of one flow bound to one conversation.
-/

namespace ChatFlow

open Schema

inductive SessionStatus where
  | running | awaitingInput | awaitingTimer | completed | cancelled | failed
  deriving DecidableEq, Repr

instance : Words SessionStatus where
  values := [.running, .awaitingInput, .awaitingTimer, .completed, .cancelled, .failed]
  word
    | .running => "running"
    | .awaitingInput => "awaiting_input"
    | .awaitingTimer => "awaiting_timer"
    | .completed => "completed"
    | .cancelled => "cancelled"
    | .failed => "failed"

structure Session where
  id : Option String
  conversation : String
  organization : String
  connection : Option String
  flow : String
  currentNode : String
  bag : Variables
  status : SessionStatus
  isActive : Bool
  revision : Int
  endReason : Option String
  resumeAt : Option Stamp
  startedBy : Option String
  startedAt : Stamp
  updatedAt : Stamp
  endedAt : Option Stamp
  deriving DecidableEq, Repr

namespace Session

def ofMembers (now : Stamp) (members : Table Value) : Checked Session :=
  mk <$> withDefault (.optional .text) "id" none members
    <*> required .text "conversation_id" members
    <*> required .text "organization_id" members
    <*> withDefault (.optional .text) "connection_id" none members
    <*> required .text "flow_id" members
    <*> withDefault .text "current_node_id" "start" members
    <*> withDefault .textTable "variables" [] members
    <*> withDefault (.word SessionStatus .unknownStatus) "status" .running members
    <*> withDefault .boolean "is_active" true members
    <*> withDefault .integer "revision" 0 members
    <*> withDefault (.optional .text) "end_reason" none members
    <*> withDefault (.optional .stamp) "resume_at" none members
    <*> withDefault (.optional .text) "started_by" none members
    <*> withDefault .stamp "started_at" now members
    <*> withDefault .stamp "updated_at" now members
    <*> withDefault (.optional .stamp) "ended_at" none members

def decode (now : Stamp) : Value → Checked Session := decodeRecord .notRecord (ofMembers now)

def documentMembers (session : Session) : Table Value :=
  [("conversation_id", .str session.conversation), ("organization_id", .str session.organization),
    ("connection_id", .ofText? session.connection), ("flow_id", .str session.flow),
    ("current_node_id", .str session.currentNode),
    ("variables", .ofTextTable session.bag), ("status", wordValue session.status),
    ("is_active", .bool session.isActive), ("revision", .int session.revision),
    ("end_reason", .ofText? session.endReason), ("resume_at", .ofStamp? session.resumeAt),
    ("started_by", .ofText? session.startedBy), ("started_at", .stamp session.startedAt),
    ("updated_at", .stamp session.updatedAt), ("ended_at", .ofStamp? session.endedAt)]

def toMembers (session : Session) : Table Value :=
  ("id", .ofText? session.id) :: session.documentMembers

def toValue (session : Session) : Value := .obj session.toMembers

end Session

end ChatFlow

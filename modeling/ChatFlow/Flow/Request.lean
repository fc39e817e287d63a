import ChatFlow.Flow.Basic
/-
What callers ask of flows and sessions: a new flow, new settings of a flow, a new graph, a manual
start, and the handling of a message.
-/

namespace ChatFlow

open Schema

/-- The settings of a new flow. -/
structure NewFlow where
  name : String
  description : Option String
  triggerEnabled : Bool
  keywords : List String
  matchMode : MatchMode
  connections : List String
  deriving DecidableEq, Repr

namespace NewFlow

def ofMembers (members : Table Value) : Checked NewFlow :=
  mk <$> required .nonEmptyText "name" members
    <*> withDefault (.optional .text) "description" none members
    <*> withDefault .boolean "trigger_enabled" false members
    <*> withDefault (.list .text) "trigger_keywords" [] members
    <*> withDefault (.word MatchMode .unknownWord) "trigger_match_mode" .exact members
    <*> withDefault (.list .text) "connection_ids" [] members

def toMembers (request : NewFlow) : Table Value :=
  [("name", .str request.name), ("description", .ofText? request.description),
    ("trigger_enabled", .bool request.triggerEnabled),
    ("trigger_keywords", .ofTexts request.keywords),
    ("trigger_match_mode", wordValue request.matchMode),
    ("connection_ids", .ofTexts request.connections)]

/-- The flow before it is stored: an inactive draft with nothing but a start node. -/
def flow (request : NewFlow) (organization : String) (editor : Option String) (now : Stamp) :
    Flow where
  id := none
  organization := organization
  name := request.name
  description := request.description
  triggerEnabled := request.triggerEnabled
  keywords := request.keywords
  matchMode := request.matchMode
  connections := request.connections
  isActive := false
  isDraft := true
  version := 1
  nodes := [
    { id := Node.startId
      name := some "Início"
      position := Position.origin
      content := .start ⟨[]⟩
      extras := [] }]
  edges := []
  lastEditedBy := editor
  createdAt := now
  updatedAt := now

end NewFlow

/-- New settings of a flow. A setting that is not given, or given as null, stays as it is. -/
structure FlowUpdate where
  name : Option String
  description : Option String
  triggerEnabled : Option Bool
  keywords : Option (List String)
  matchMode : Option MatchMode
  connections : Option (List String)
  isActive : Option Bool
  isDraft : Option Bool
  given : List String
  deriving DecidableEq, Repr

namespace FlowUpdate

/-- The names of the settings, in alphabetical order. -/
def fields : List String :=
  ["connection_ids", "description", "is_active", "is_draft", "name", "trigger_enabled",
    "trigger_keywords", "trigger_match_mode"]

def ofMembers (members : Table Value) : Checked FlowUpdate :=
  mk <$> withDefault (.optional .nonEmptyText) "name" none members
    <*> withDefault (.optional .text) "description" none members
    <*> withDefault (.optional .boolean) "trigger_enabled" none members
    <*> withDefault (.optional (.list .text)) "trigger_keywords" none members
    <*> withDefault (.optional (.word MatchMode .unknownWord)) "trigger_match_mode" none members
    <*> withDefault (.optional (.list .text)) "connection_ids" none members
    <*> withDefault (.optional .boolean) "is_active" none members
    <*> withDefault (.optional .boolean) "is_draft" none members
    <*> .accepted (fields.filter fun field => Table.has field members)

def toMembers (update : FlowUpdate) : Table Value :=
  [("name", .ofText? update.name), ("description", .ofText? update.description),
    ("trigger_enabled", (update.triggerEnabled.map Value.bool).getD .null),
    ("trigger_keywords", (update.keywords.map Value.ofTexts).getD .null),
    ("trigger_match_mode", (update.matchMode.map wordValue).getD .null),
    ("connection_ids", (update.connections.map Value.ofTexts).getD .null),
    ("is_active", (update.isActive.map Value.bool).getD .null),
    ("is_draft", (update.isDraft.map Value.bool).getD .null)]

def settings (update : FlowUpdate) : Table Value :=
  update.toMembers.filter fun entry => entry.2 != .null

end FlowUpdate

/-- A new graph; nodes and edges may be of either shape. -/
structure CanvasRequest where
  nodes : List (Table Value)
  edges : List (Table Value)
  deriving DecidableEq, Repr

namespace CanvasRequest

def ofMembers (members : Table Value) : Checked CanvasRequest :=
  mk <$> withDefault (.list .object) "nodes" [] members
    <*> withDefault (.list .object) "edges" [] members

def toMembers (request : CanvasRequest) : Table Value :=
  [("nodes", .arr (request.nodes.map .obj)), ("edges", .arr (request.edges.map .obj))]

end CanvasRequest

/-- The manual start of a flow on a conversation. -/
structure StartRequest where
  flow : String
  conversation : String
  connection : Option String
  contactName : Option String
  contactPhone : Option String
  bag : Table String
  deriving DecidableEq, Repr

namespace StartRequest

def ofMembers (members : Table Value) : Checked StartRequest :=
  mk <$> required .text "flow_id" members
    <*> required .text "conversation_id" members
    <*> withDefault (.optional .text) "connection_id" none members
    <*> withDefault (.optional .text) "contact_name" none members
    <*> withDefault (.optional .text) "contact_phone" none members
    <*> withDefault .textTable "variables" [] members

def toMembers (request : StartRequest) : Table Value :=
  [("flow_id", .str request.flow), ("conversation_id", .str request.conversation),
    ("connection_id", .ofText? request.connection), ("contact_name", .ofText? request.contactName),
    ("contact_phone", .ofText? request.contactPhone),
    ("variables", .ofTextTable request.bag)]

end StartRequest

/-- A message that arrived on a conversation. -/
structure InboundMessage where
  organization : String
  connection : Option String
  conversation : String
  text : Option String
  kind : String
  contactName : Option String
  contactPhone : Option String
  deriving DecidableEq, Repr

namespace InboundMessage

def ofMembers (members : Table Value) : Checked InboundMessage :=
  mk <$> required .text "organization_id" members
    <*> withDefault (.optional .text) "connection_id" none members
    <*> required .text "conversation_id" members
    <*> withDefault (.optional .text) "text" (some "") members
    <*> withDefault .text "message_type" "text" members
    <*> withDefault (.optional .text) "contact_name" none members
    <*> withDefault (.optional .text) "contact_phone" none members

def toMembers (message : InboundMessage) : Table Value :=
  [("organization_id", .str message.organization), ("connection_id", .ofText? message.connection),
    ("conversation_id", .str message.conversation), ("text", .ofText? message.text),
    ("message_type", .str message.kind), ("contact_name", .ofText? message.contactName),
    ("contact_phone", .ofText? message.contactPhone)]

end InboundMessage

end ChatFlow

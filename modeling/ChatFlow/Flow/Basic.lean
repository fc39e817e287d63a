import ChatFlow.Graph.Node
import ChatFlow.Graph.Edge
/-
A flow: its settings, its trigger, and its graph. A flow belongs to one organization; its version
counts the graphs that it has had.
-/

namespace ChatFlow

open Schema

/-- How the trigger compares a message with its keywords. -/
inductive MatchMode where
  | exact | contains | startsWith | regex
  deriving DecidableEq, Repr

instance : Words MatchMode where
  values := [.exact, .contains, .startsWith, .regex]
  word
    | .exact => "exact"
    | .contains => "contains"
    | .startsWith => "starts_with"
    | .regex => "regex"

structure Flow where
  id : Option String
  organization : String
  name : String
  description : Option String
  triggerEnabled : Bool
  keywords : List String
  matchMode : MatchMode
  connections : List String
  isActive : Bool
  isDraft : Bool
  version : Int
  nodes : List Node
  edges : List Edge
  lastEditedBy : Option String
  createdAt : Stamp
  updatedAt : Stamp
  deriving DecidableEq, Repr

namespace Flow

/-- Whether the flow runs on a connection: it names no connection, or that one. -/
def acceptsConnection (flow : Flow) (connection : Option String) : Bool :=
  flow.connections.isEmpty || (match connection with
    | some connection => flow.connections.contains connection
    | none => false)

/-- Reads a flow; absent times are the present time. -/
def ofMembers (now : Stamp) (members : Table Value) : Checked Flow :=
  mk <$> withDefault (.optional .text) "id" none members
    <*> required .text "organization_id" members
    <*> required .text "name" members
    <*> withDefault (.optional .text) "description" none members
    <*> withDefault .boolean "trigger_enabled" false members
    <*> withDefault (.list .text) "trigger_keywords" [] members
    <*> withDefault (.word MatchMode .unknownWord) "trigger_match_mode" .exact members
    <*> withDefault (.list .text) "connection_ids" [] members
    <*> withDefault .boolean "is_active" false members
    <*> withDefault .boolean "is_draft" true members
    <*> withDefault .integer "version" 1 members
    <*> withDefault (.list Node.codec) "nodes" [] members
    <*> withDefault (.list Edge.codec) "edges" [] members
    <*> withDefault (.optional .text) "last_edited_by" none members
    <*> withDefault .stamp "created_at" now members
    <*> withDefault .stamp "updated_at" now members

def decode (now : Stamp) : Value → Checked Flow := decodeRecord .notRecord (ofMembers now)

/-- The members between the identifier and the graph. -/
def settingsMembers (flow : Flow) : Table Value :=
  [("organization_id", .str flow.organization), ("name", .str flow.name),
    ("description", .ofText? flow.description), ("trigger_enabled", .bool flow.triggerEnabled),
    ("trigger_keywords", .ofTexts flow.keywords), ("trigger_match_mode", wordValue flow.matchMode),
    ("connection_ids", .ofTexts flow.connections), ("is_active", .bool flow.isActive),
    ("is_draft", .bool flow.isDraft), ("version", .int flow.version)]

def editMembers (flow : Flow) : Table Value :=
  [("last_edited_by", .ofText? flow.lastEditedBy), ("created_at", .stamp flow.createdAt),
    ("updated_at", .stamp flow.updatedAt)]

def nodeValues (flow : Flow) : List Value := flow.nodes.map Node.codec.encode

def edgeValues (flow : Flow) : List Value := flow.edges.map Edge.codec.encode

def graphMembers (flow : Flow) : Table Value :=
  [("nodes", .arr flow.nodeValues), ("edges", .arr flow.edgeValues)]

def toMembers (flow : Flow) : Table Value :=
  ("id", .ofText? flow.id) :: flow.settingsMembers ++ flow.graphMembers ++ flow.editMembers

def toValue (flow : Flow) : Value := .obj flow.toMembers

/-- The flow with some of its fields set anew; fields that are not named keep their values. -/
def withSettings (flow : Flow) (settings : Table Value) : Checked Flow :=
  mk <$> withDefault (.optional .text) "id" flow.id settings
    <*> withDefault .text "organization_id" flow.organization settings
    <*> withDefault .text "name" flow.name settings
    <*> withDefault (.optional .text) "description" flow.description settings
    <*> withDefault .boolean "trigger_enabled" flow.triggerEnabled settings
    <*> withDefault (.list .text) "trigger_keywords" flow.keywords settings
    <*> withDefault (.word MatchMode .unknownWord) "trigger_match_mode" flow.matchMode settings
    <*> withDefault (.list .text) "connection_ids" flow.connections settings
    <*> withDefault .boolean "is_active" flow.isActive settings
    <*> withDefault .boolean "is_draft" flow.isDraft settings
    <*> withDefault .integer "version" flow.version settings
    <*> withDefault (.list Node.codec) "nodes" flow.nodes settings
    <*> withDefault (.list Edge.codec) "edges" flow.edges settings
    <*> withDefault (.optional .text) "last_edited_by" flow.lastEditedBy settings
    <*> withDefault .stamp "created_at" flow.createdAt settings
    <*> withDefault .stamp "updated_at" flow.updatedAt settings

/-- A listing row of a flow, without its graph; a flow needs an identifier for it. -/
def summary? (flow : Flow) : Option Value :=
  flow.id.map fun id =>
    .obj (("id", .str id) :: flow.settingsMembers ++
      ("node_count", .int flow.nodes.length) :: flow.editMembers)

end Flow

end ChatFlow

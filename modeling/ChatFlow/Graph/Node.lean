import ChatFlow.Graph.Content
/-
Nodes of a flow's graph: an identifier, a name and a place on the canvas, with the content of one of
eleven kinds. The kind of a node is the kind of its content.
-/

namespace ChatFlow

open Schema

inductive NodeKind where
  | start | message | menu | input | condition | action | transfer | aiResponse | delay | webhook
  | finish
  deriving DecidableEq, Repr

instance : Words NodeKind where
  values := [.start, .message, .menu, .input, .condition, .action, .transfer, .aiResponse, .delay,
    .webhook, .finish]
  word
    | .start => "start"
    | .message => "message"
    | .menu => "menu"
    | .input => "input"
    | .condition => "condition"
    | .action => "action"
    | .transfer => "transfer"
    | .aiResponse => "ai_response"
    | .delay => "delay"
    | .webhook => "webhook"
    | .finish => "end"

inductive Content where
  | start (content : EmptyContent)
  | message (content : MessageContent)
  | menu (content : MenuContent)
  | input (content : InputContent)
  | condition (content : ConditionContent)
  | action (content : ActionContent)
  | transfer (content : TransferContent)
  | aiResponse (content : AiContent)
  | delay (content : DelayContent)
  | webhook (content : WebhookContent)
  | finish (content : EmptyContent)
  deriving DecidableEq, Repr

namespace Content

def kind : Content → NodeKind
  | .start _ => .start
  | .message _ => .message
  | .menu _ => .menu
  | .input _ => .input
  | .condition _ => .condition
  | .action _ => .action
  | .transfer _ => .transfer
  | .aiResponse _ => .aiResponse
  | .delay _ => .delay
  | .webhook _ => .webhook
  | .finish _ => .finish

/-- Reads the content of a node of a kind from the members of an object. -/
def ofMembers (kind : NodeKind) (members : Table Value) : Checked Content :=
  match kind with
  | .start => start <$> EmptyContent.ofMembers members
  | .message => message <$> MessageContent.ofMembers members
  | .menu => menu <$> MenuContent.ofMembers members
  | .input => input <$> InputContent.ofMembers members
  | .condition => condition <$> ConditionContent.ofMembers members
  | .action => action <$> ActionContent.ofMembers members
  | .transfer => transfer <$> TransferContent.ofMembers members
  | .aiResponse => aiResponse <$> AiContent.ofMembers members
  | .delay => delay <$> DelayContent.ofMembers members
  | .webhook => webhook <$> WebhookContent.ofMembers members
  | .finish => finish <$> EmptyContent.ofMembers members

def toMembers : Content → Table Value
  | .start content => content.toMembers
  | .message content => content.toMembers
  | .menu content => content.toMembers
  | .input content => content.toMembers
  | .condition content => content.toMembers
  | .action content => content.toMembers
  | .transfer content => content.toMembers
  | .aiResponse content => content.toMembers
  | .delay content => content.toMembers
  | .webhook content => content.toMembers
  | .finish content => content.toMembers

/-- Reads the member that holds a content. An absent content has every field's default, except that
an action has no default. -/
def ofNodeMembers (kind : NodeKind) (members : Table Value) : Checked Content :=
  match Table.lookup? "content" members with
  | some value =>
      (decodeRecord .notRecord (ofMembers kind) value).under (.name "content")
  | none =>
      if kind = .action then .rejected [⟨.missing, [.name "content"]⟩] else ofMembers kind []

end Content

/-- Where a node stands on the canvas. -/
structure Position where
  x : Binary64
  y : Binary64
  deriving DecidableEq, Repr

namespace Position

def origin : Position := ⟨Binary64.ofInt 0, Binary64.ofInt 0⟩

def ofMembers (members : Table Value) : Checked Position :=
  mk <$> withDefault .real "x" origin.x members
    <*> withDefault .real "y" origin.y members

def toMembers (position : Position) : Table Value :=
  [("x", .real position.x), ("y", .real position.y)]

def codec : Codec Position :=
  ⟨decodeRecord .notRecord ofMembers, fun position => .obj position.toMembers⟩

end Position

structure Node where
  id : String
  name : Option String
  position : Position
  content : Content
  extras : Table Value
  deriving DecidableEq, Repr

namespace Node

def kind (node : Node) : NodeKind := node.content.kind

def fields : List String := ["node_id", "name", "position", "node_type", "content"]

/-- Reads the members of a node of a known kind. -/
def ofMembers (kind : NodeKind) (members : Table Value) : Checked Node :=
  mk <$> required .text "node_id" members
    <*> withDefault (.optional .text) "name" (some "") members
    <*> withDefault Position.codec "position" Position.origin members
    <*> Content.ofNodeMembers kind members
    <*> .accepted (extraMembers fields members)

def toMembers (node : Node) : Table Value :=
  [("node_id", .str node.id), ("name", .ofText? node.name),
    ("position", .obj node.position.toMembers), ("node_type", wordValue node.kind),
    ("content", .obj node.content.toMembers)] ++ Value.toPlainMembers node.extras

/-- Reads a node: its tag decides the kind, and the issues of its members stand under the tag. -/
def decode : Value → Checked Node
  | .obj members =>
      match Table.lookup? "node_type" members with
      | none => .reject .noTag
      | some (.str tag) =>
          match ofWord? (α := NodeKind) tag with
          | some kind => (ofMembers kind members).under (.name tag)
          | none => .reject .unknownTag
      | some _ => .reject .unknownTag
  | _ => .reject .notAttributes

def codec : Codec Node := ⟨decode, fun node => .obj node.toMembers⟩

def startId : String := "start"

end Node

end ChatFlow

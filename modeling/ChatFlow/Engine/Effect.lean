import ChatFlow.Graph.Content
/-
What a node asks to be done outside the engine, and how a session goes on after a node.
-/

namespace ChatFlow

open Schema

/-! ### Effects -/

/-- The kinds of message that are sent one by one. -/
inductive MessageKind where
  | text | image | video | audio | document
  deriving DecidableEq, Repr

instance : Words MessageKind where
  values := [.text, .image, .video, .audio, .document]
  word
    | .text => "text"
    | .image => "image"
    | .video => "video"
    | .audio => "audio"
    | .document => "document"

/-- Whom a notification goes to: the organization's users, or a telephone number. -/
inductive NotificationChannel where
  | users | whatsapp
  deriving DecidableEq, Repr

instance : Words NotificationChannel where
  values := [.users, .whatsapp]
  word
    | .users => "internal"
    | .whatsapp => "whatsapp"

inductive Effect where
  | sendMessage (kind : MessageKind) (text : Option String) (mediaUrl : Option String)
      (delaySeconds : Binary64)
  | sendTyping (seconds : Binary64)
  | callWebhook (method : String) (url : String) (statusCode : Option Int) (success : Bool)
      (error : Option String)
  | createTask (title : String) (description : Option String) (dueInDays : Option Int)
  | notify (channel : NotificationChannel) (recipient : Option String) (message : String)
  | sendEmail (recipient : String) (subject : String) (html : String)
  | setTag (tag : String) (add : Bool)
  | transfer (kind : TransferKind) (target : Option String)
  | closeConversation
  deriving DecidableEq, Repr

namespace Effect

/-- A text message that is sent at once. -/
def message (text : String) : Effect := .sendMessage .text (some text) none (Binary64.ofInt 0)

def tag : Effect → String
  | .sendMessage .. => "send_message"
  | .sendTyping .. => "send_typing"
  | .callWebhook .. => "call_webhook"
  | .createTask .. => "create_crm_task"
  | .notify .. => "send_external_notification"
  | .sendEmail .. => "send_email"
  | .setTag .. => "set_tag"
  | .transfer .. => "transfer_conversation"
  | .closeConversation => "close_conversation"

def detailMembers : Effect → Table Value
  | .sendMessage kind text mediaUrl delaySeconds =>
      [("message_type", wordValue kind), ("text", .ofText? text), ("media_url", .ofText? mediaUrl),
        ("delay_before_seconds", .real delaySeconds)]
  | .sendTyping seconds => [("duration_seconds", .real seconds)]
  | .callWebhook method url statusCode success error =>
      [("method", .str method), ("url", .str url), ("status_code", .ofInt? statusCode),
        ("success", .bool success), ("error", .ofText? error)]
  | .createTask title description dueInDays =>
      [("title", .str title), ("description", .ofText? description),
        ("due_in_days", .ofInt? dueInDays)]
  | .notify channel recipient message =>
      [("channel", wordValue channel), ("recipient", .ofText? recipient), ("message", .str message)]
  | .sendEmail recipient subject html =>
      [("to", .str recipient), ("subject", .str subject), ("html", .str html)]
  | .setTag tag add => [("tag_id", .str tag), ("add", .bool add)]
  | .transfer kind target => [("transfer_type", wordValue kind), ("target_id", .ofText? target)]
  | .closeConversation => []

def toValue (effect : Effect) : Value :=
  .obj (("effect_type", .str effect.tag) :: effect.detailMembers)

/-- Reads the members of an effect with a tag; `none` for an unknown tag. -/
def ofMembers? (tag : String) (members : Table Value) : Option (Checked Effect) :=
  match tag with
  | "send_message" => some <|
      Effect.sendMessage
        <$> withDefault (.word MessageKind .unknownWord) "message_type" .text members
        <*> withDefault (.optional .text) "text" (some "") members
        <*> withDefault (.optional .text) "media_url" none members
        <*> withDefault .real "delay_before_seconds" (Binary64.ofInt 0) members
  | "send_typing" => some <|
      Effect.sendTyping <$> withDefault .real "duration_seconds" (Binary64.ofInt 3) members
  | "call_webhook" => some <|
      Effect.callWebhook <$> required .text "method" members
        <*> required .text "url" members
        <*> withDefault (.optional .integer) "status_code" none members
        <*> withDefault .boolean "success" false members
        <*> withDefault (.optional .text) "error" none members
  | "create_crm_task" => some <|
      Effect.createTask <$> required .text "title" members
        <*> withDefault (.optional .text) "description" (some "") members
        <*> withDefault (.optional .integer) "due_in_days" none members
  | "send_external_notification" => some <|
      Effect.notify
        <$> withDefault (.word NotificationChannel .unknownWord) "channel" .users members
        <*> withDefault (.optional .text) "recipient" none members
        <*> required .text "message" members
  | "send_email" => some <|
      Effect.sendEmail <$> required .text "to" members
        <*> withDefault .text "subject" "" members
        <*> withDefault .text "html" "" members
  | "set_tag" => some <|
      Effect.setTag <$> required .text "tag_id" members
        <*> withDefault .boolean "add" true members
  | "transfer_conversation" => some <|
      Effect.transfer <$> required (.word TransferKind .unknownWord) "transfer_type" members
        <*> withDefault (.optional .text) "target_id" (some "") members
  | "close_conversation" => some (.accepted .closeConversation)
  | _ => none

/-- Reads an effect: its tag decides the kind, and issues of its members stand under the tag. -/
def decode : Value → Checked Effect
  | .obj members =>
      match Table.lookup? "effect_type" members with
      | none => .reject .noTag
      | some (.str tag) =>
          match ofMembers? tag members with
          | some checked => checked.under (.name tag)
          | none => .reject .unknownTag
      | some _ => .reject .unknownTag
  | _ => .reject .notAttributes

end Effect

/-! ### Decisions -/

/-- What a session waits for when it waits for a reply. -/
inductive ReplyKind where
  | menu | text
  deriving DecidableEq, Repr

instance : Words ReplyKind where
  values := [.menu, .text]
  word
    | .menu => "menu"
    | .text => "text"

/-- How a flow ended. -/
inductive Outcome where
  | completed | failed | cancelled
  deriving DecidableEq, Repr

instance : Words Outcome where
  values := [.completed, .failed, .cancelled]
  word
    | .completed => "completed"
    | .failed => "failed"
    | .cancelled => "cancelled"

inductive Decision where
  | advance (node : String) (handle : Option String)
  | awaitInput (kind : ReplyKind)
  | suspend (resumeAt : Stamp)
  | terminate (outcome : Outcome) (reason : String)
  deriving DecidableEq, Repr

namespace Decision

def toValue : Decision → Value
  | .advance node handle =>
      .obj [("decision", .str "advance"), ("node_id", .str node), ("handle", .ofText? handle)]
  | .awaitInput kind => .obj [("decision", .str "await_input"), ("kind", wordValue kind)]
  | .suspend resumeAt =>
      .obj [("decision", .str "suspend"), ("resume_at", .stamp resumeAt)]
  | .terminate outcome reason =>
      .obj [("decision", .str "terminate"), ("outcome", wordValue outcome), ("reason", .str reason)]

end Decision

/-- The result of a node: effects, the next decision, and the variables afterwards. -/
structure NodeResult where
  effects : List Effect
  next : Decision
  bag : Table String
  deriving DecidableEq, Repr

namespace NodeResult

def toValue (result : NodeResult) : Value :=
  .obj [("effects", .arr (result.effects.map Effect.toValue)), ("next", result.next.toValue),
    ("variables", .ofTextTable result.bag)]

end NodeResult

end ChatFlow

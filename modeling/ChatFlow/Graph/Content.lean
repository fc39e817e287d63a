import ChatFlow.Schema.Codec
/-
What the nodes of a flow say and do: one type of content for each kind of node. Each content is read
from the members of an object, with a value for every absent field, and keeps the members it does
not know. Parts of a content, such as menu options, drop unknown members.
-/

namespace ChatFlow

open Schema

/-! ### Words -/

inductive MediaType where
  | text | image | video | audio | document | gallery
  deriving DecidableEq, Repr

instance : Words MediaType where
  values := [.text, .image, .video, .audio, .document, .gallery]
  word
    | .text => "text"
    | .image => "image"
    | .video => "video"
    | .audio => "audio"
    | .document => "document"
    | .gallery => "gallery"

/-- The form an input node asks for. -/
inductive InputForm where
  | text | email | phone | number | cpf | date
  deriving DecidableEq, Repr

instance : Words InputForm where
  values := [.text, .email, .phone, .number, .cpf, .date]
  word
    | .text => "text"
    | .email => "email"
    | .phone => "phone"
    | .number => "number"
    | .cpf => "cpf"
    | .date => "date"

inductive ConditionOperator where
  | equals | notEquals | contains | notContains | startsWith | endsWith
  | greaterThan | lessThan | isEmpty | isNotEmpty
  deriving DecidableEq, Repr

instance : Words ConditionOperator where
  values := [.equals, .notEquals, .contains, .notContains, .startsWith, .endsWith, .greaterThan,
    .lessThan, .isEmpty, .isNotEmpty]
  word
    | .equals => "equals"
    | .notEquals => "not_equals"
    | .contains => "contains"
    | .notContains => "not_contains"
    | .startsWith => "starts_with"
    | .endsWith => "ends_with"
    | .greaterThan => "greater_than"
    | .lessThan => "less_than"
    | .isEmpty => "is_empty"
    | .isNotEmpty => "is_not_empty"

/-- Whether all rules of a condition have to hold, or one of them. -/
inductive ConditionLogic where
  | all | any
  deriving DecidableEq, Repr

instance : Words ConditionLogic where
  values := [.all, .any]
  word
    | .all => "and"
    | .any => "or"

inductive ActionKind where
  | setVariable | addTag | removeTag | sendEmail | notify | notifyExternal | closeConversation
  | createTask
  deriving DecidableEq, Repr

instance : Words ActionKind where
  values := [.setVariable, .addTag, .removeTag, .sendEmail, .notify, .notifyExternal,
    .closeConversation, .createTask]
  word
    | .setVariable => "set_variable"
    | .addTag => "add_tag"
    | .removeTag => "remove_tag"
    | .sendEmail => "send_email"
    | .notify => "notify"
    | .notifyExternal => "notify_external"
    | .closeConversation => "close_conversation"
    | .createTask => "create_task"

inductive TransferKind where
  | department | agent | queue
  deriving DecidableEq, Repr

instance : Words TransferKind where
  values := [.department, .agent, .queue]
  word
    | .department => "department"
    | .agent => "agent"
    | .queue => "queue"

inductive DelayUnit where
  | seconds | minutes | hours
  deriving DecidableEq, Repr

instance : Words DelayUnit where
  values := [.seconds, .minutes, .hours]
  word
    | .seconds => "seconds"
    | .minutes => "minutes"
    | .hours => "hours"

inductive HttpMethod where
  | get | post | put | patch | delete
  deriving DecidableEq, Repr

instance : Words HttpMethod where
  values := [.get, .post, .put, .patch, .delete]
  word
    | .get => "GET"
    | .post => "POST"
    | .put => "PUT"
    | .patch => "PATCH"
    | .delete => "DELETE"

def wordOf {α : Type} [Words α] (value : α) : String := Words.word value

def wordValue {α : Type} [Words α] (value : α) : Value := .str (Words.word value)

/-! ### Start and end -/

/-- The content of a start or an end node: only members that nothing reads. -/
structure EmptyContent where
  extras : Table Value
  deriving DecidableEq, Repr

namespace EmptyContent

def ofMembers (members : Table Value) : Checked EmptyContent := .accepted ⟨members⟩

def toMembers (content : EmptyContent) : Table Value := Value.toPlainMembers content.extras

end EmptyContent

/-! ### Messages -/

structure GalleryImage where
  url : String
  caption : Option String
  deriving DecidableEq, Repr

namespace GalleryImage

def ofMembers (members : Table Value) : Checked GalleryImage :=
  mk <$> required .text "url" members
    <*> withDefault (.optional .text) "caption" (some "") members

def toMembers (image : GalleryImage) : Table Value :=
  [("url", .str image.url), ("caption", .ofText? image.caption)]

def codec : Codec GalleryImage :=
  ⟨decodeRecord .notRecord ofMembers, fun image => .obj image.toMembers⟩

end GalleryImage

structure MessageContent where
  mediaType : MediaType
  text : Option String
  mediaUrl : Option String
  caption : Option String
  galleryImages : List GalleryImage
  typing : Bool
  extras : Table Value
  deriving DecidableEq, Repr

namespace MessageContent

def fields : List String :=
  ["media_type", "text", "media_url", "caption", "gallery_images", "typing"]

def ofMembers (members : Table Value) : Checked MessageContent :=
  mk <$> withDefault (.word MediaType .unknownWord) "media_type" .text members
    <*> withDefault (.optional .text) "text" (some "") members
    <*> withDefault (.optional .text) "media_url" (some "") members
    <*> withDefault (.optional .text) "caption" (some "") members
    <*> withDefault (.listUpTo 10 GalleryImage.codec) "gallery_images" [] members
    <*> withDefault .boolean "typing" false members
    <*> .accepted (extraMembers fields members)

def toMembers (content : MessageContent) : Table Value :=
  [("media_type", wordValue content.mediaType), ("text", .ofText? content.text),
    ("media_url", .ofText? content.mediaUrl), ("caption", .ofText? content.caption),
    ("gallery_images", (Codec.listUpTo 10 GalleryImage.codec).encode content.galleryImages),
    ("typing", .bool content.typing)] ++ Value.toPlainMembers content.extras

end MessageContent

/-! ### Menus -/

structure MenuOption where
  id : String
  label : String
  value : Option String
  deriving DecidableEq, Repr

namespace MenuOption

def ofMembers (members : Table Value) : Checked MenuOption :=
  mk <$> required .text "id" members
    <*> withDefault .text "label" "" members
    <*> withDefault (.optional .text) "value" (some "") members

def toMembers (option : MenuOption) : Table Value :=
  [("id", .str option.id), ("label", .str option.label), ("value", .ofText? option.value)]

def codec : Codec MenuOption :=
  ⟨decodeRecord .notRecord ofMembers, fun option => .obj option.toMembers⟩

end MenuOption

structure MenuContent where
  text : Option String
  options : List MenuOption
  invalidMessage : Option String
  maxAttempts : Nat
  variableName : Option String
  extras : Table Value
  deriving DecidableEq, Repr

namespace MenuContent

def fields : List String := ["text", "options", "invalid_message", "max_attempts", "variable_name"]

def ofMembers (members : Table Value) : Checked MenuContent :=
  mk <$> withDefault (.optional .text) "text" (some "") members
    <*> withDefault (.list MenuOption.codec) "options" [] members
    <*> withDefault (.optional .text) "invalid_message" (some "") members
    <*> withDefault (.naturalFrom 1) "max_attempts" 3 members
    <*> withDefault (.optional .text) "variable_name" (some "") members
    <*> .accepted (extraMembers fields members)

def toMembers (content : MenuContent) : Table Value :=
  [("text", .ofText? content.text),
    ("options", (Codec.list MenuOption.codec).encode content.options),
    ("invalid_message", .ofText? content.invalidMessage),
    ("max_attempts", .int content.maxAttempts),
    ("variable_name", .ofText? content.variableName)] ++ Value.toPlainMembers content.extras

end MenuContent

/-! ### Inputs -/

structure InputContent where
  text : Option String
  variableName : String
  form : InputForm
  errorMessage : Option String
  required : Bool
  extras : Table Value
  deriving DecidableEq, Repr

namespace InputContent

def fields : List String := ["text", "variable_name", "validation", "error_message", "required"]

def ofMembers (members : Table Value) : Checked InputContent :=
  mk <$> withDefault (.optional .text) "text" (some "") members
    <*> withDefault .text "variable_name" "resposta" members
    <*> withDefault (.word InputForm .unknownWord) "validation" .text members
    <*> withDefault (.optional .text) "error_message" (some "") members
    <*> withDefault .boolean "required" true members
    <*> .accepted (extraMembers fields members)

def toMembers (content : InputContent) : Table Value :=
  [("text", .ofText? content.text), ("variable_name", .str content.variableName),
    ("validation", wordValue content.form), ("error_message", .ofText? content.errorMessage),
    ("required", .bool content.required)] ++ Value.toPlainMembers content.extras

end InputContent

/-! ### Conditions -/

structure ConditionRule where
  variableName : String
  operator : ConditionOperator
  value : Option String
  deriving DecidableEq, Repr

namespace ConditionRule

def ofMembers (members : Table Value) : Checked ConditionRule :=
  mk <$> required .text "variable" members
    <*> withDefault (.word ConditionOperator .unknownWord) "operator" .equals members
    <*> withDefault (.optional .text) "value" (some "") members

def toMembers (rule : ConditionRule) : Table Value :=
  [("variable", .str rule.variableName), ("operator", wordValue rule.operator),
    ("value", .ofText? rule.value)]

def codec : Codec ConditionRule :=
  ⟨decodeRecord .notRecord ofMembers, fun rule => .obj rule.toMembers⟩

end ConditionRule

structure ConditionContent where
  rules : List ConditionRule
  logic : ConditionLogic
  extras : Table Value
  deriving DecidableEq, Repr

namespace ConditionContent

def fields : List String := ["rules", "logic"]

def ofMembers (members : Table Value) : Checked ConditionContent :=
  mk <$> withDefault (.list ConditionRule.codec) "rules" [] members
    <*> withDefault (.word ConditionLogic .unknownWord) "logic" .all members
    <*> .accepted (extraMembers fields members)

def toMembers (content : ConditionContent) : Table Value :=
  [("rules", (Codec.list ConditionRule.codec).encode content.rules),
    ("logic", wordValue content.logic)] ++ Value.toPlainMembers content.extras

end ConditionContent

/-! ### Actions -/

/-- An action; only the fields of its kind are read, and the others are kept. -/
structure ActionContent where
  kind : ActionKind
  variableName : Option String
  variableValue : Option String
  tagId : Option String
  emailTo : Option String
  emailSubject : Option String
  emailBody : Option String
  notificationMessage : Option String
  phoneNumber : Option String
  externalMessage : Option String
  taskTitle : Option String
  taskDescription : Option String
  taskDueInDays : Option Int
  extras : Table Value
  deriving DecidableEq, Repr

namespace ActionContent

def fields : List String :=
  ["action_type", "variable_name", "variable_value", "tag_id", "email_to", "email_subject",
    "email_body", "notification_message", "phone_number", "external_message", "task_title",
    "task_description", "task_due_in_days"]

def ofMembers (members : Table Value) : Checked ActionContent :=
  mk <$> required (.word ActionKind .unknownWord) "action_type" members
    <*> withDefault (.optional .text) "variable_name" (some "") members
    <*> withDefault (.optional .text) "variable_value" (some "") members
    <*> withDefault (.optional .text) "tag_id" (some "") members
    <*> withDefault (.optional .text) "email_to" (some "") members
    <*> withDefault (.optional .text) "email_subject" (some "") members
    <*> withDefault (.optional .text) "email_body" (some "") members
    <*> withDefault (.optional .text) "notification_message" (some "") members
    <*> withDefault (.optional .text) "phone_number" (some "") members
    <*> withDefault (.optional .text) "external_message" (some "") members
    <*> withDefault (.optional .text) "task_title" (some "") members
    <*> withDefault (.optional .text) "task_description" (some "") members
    <*> withDefault (.optional .integer) "task_due_in_days" none members
    <*> .accepted (extraMembers fields members)

def toMembers (content : ActionContent) : Table Value :=
  [("action_type", wordValue content.kind), ("variable_name", .ofText? content.variableName),
    ("variable_value", .ofText? content.variableValue), ("tag_id", .ofText? content.tagId),
    ("email_to", .ofText? content.emailTo), ("email_subject", .ofText? content.emailSubject),
    ("email_body", .ofText? content.emailBody),
    ("notification_message", .ofText? content.notificationMessage),
    ("phone_number", .ofText? content.phoneNumber),
    ("external_message", .ofText? content.externalMessage),
    ("task_title", .ofText? content.taskTitle),
    ("task_description", .ofText? content.taskDescription),
    ("task_due_in_days", .ofInt? content.taskDueInDays)] ++ Value.toPlainMembers content.extras

end ActionContent

/-! ### Transfers -/

structure TransferContent where
  kind : TransferKind
  departmentId : Option String
  agentId : Option String
  queueId : Option String
  message : Option String
  endFlow : Bool
  extras : Table Value
  deriving DecidableEq, Repr

namespace TransferContent

def fields : List String :=
  ["transfer_type", "department_id", "agent_id", "queue_id", "transfer_message", "end_flow"]

def ofMembers (members : Table Value) : Checked TransferContent :=
  mk <$> withDefault (.word TransferKind .unknownWord) "transfer_type" .queue members
    <*> withDefault (.optional .text) "department_id" (some "") members
    <*> withDefault (.optional .text) "agent_id" (some "") members
    <*> withDefault (.optional .text) "queue_id" (some "") members
    <*> withDefault (.optional .text) "transfer_message" (some "") members
    <*> withDefault .boolean "end_flow" true members
    <*> .accepted (extraMembers fields members)

def toMembers (content : TransferContent) : Table Value :=
  [("transfer_type", wordValue content.kind), ("department_id", .ofText? content.departmentId),
    ("agent_id", .ofText? content.agentId), ("queue_id", .ofText? content.queueId),
    ("transfer_message", .ofText? content.message), ("end_flow", .bool content.endFlow)] ++
    Value.toPlainMembers content.extras

/-- Whom the conversation is handed to: the identifier that belongs to the kind of transfer. -/
def targetId (content : TransferContent) : String :=
  match content.kind with
  | .department => content.departmentId.getD ""
  | .agent => content.agentId.getD ""
  | .queue => content.queueId.getD ""

end TransferContent

/-! ### Answers by a language model -/

structure AiContent where
  systemPrompt : Option String
  model : Option String
  temperature : Binary64
  saveToVariable : Option String
  includeHistory : Bool
  historyLimit : Nat
  sendReply : Bool
  extras : Table Value
  deriving DecidableEq, Repr

namespace AiContent

def fields : List String :=
  ["system_prompt", "model", "temperature", "save_to_variable", "include_history",
    "history_limit", "send_reply"]

/-- The double nearest to seven tenths. -/
def defaultTemperature : Binary64 := Binary64.ofRatio false 7 10

def ofMembers (members : Table Value) : Checked AiContent :=
  mk <$> withDefault (.optional .text) "system_prompt" (some "") members
    <*> withDefault (.optional .text) "model" (some "") members
    <*> withDefault (.realBetween 0 2) "temperature" defaultTemperature members
    <*> withDefault (.optional .text) "save_to_variable" (some "resposta_ia") members
    <*> withDefault .boolean "include_history" false members
    <*> withDefault (.naturalFrom 0) "history_limit" 10 members
    <*> withDefault .boolean "send_reply" true members
    <*> .accepted (extraMembers fields members)

def toMembers (content : AiContent) : Table Value :=
  [("system_prompt", .ofText? content.systemPrompt), ("model", .ofText? content.model),
    ("temperature", .real content.temperature),
    ("save_to_variable", .ofText? content.saveToVariable),
    ("include_history", .bool content.includeHistory),
    ("history_limit", .int content.historyLimit), ("send_reply", .bool content.sendReply)] ++
    Value.toPlainMembers content.extras

end AiContent

/-! ### Delays -/

structure DelayContent where
  duration : Nat
  unit : DelayUnit
  typing : Bool
  extras : Table Value
  deriving DecidableEq, Repr

namespace DelayContent

def fields : List String := ["duration", "unit", "typing"]

def ofMembers (members : Table Value) : Checked DelayContent :=
  mk <$> withDefault (.naturalFrom 0) "duration" 5 members
    <*> withDefault (.word DelayUnit .unknownWord) "unit" .seconds members
    <*> withDefault .boolean "typing" false members
    <*> .accepted (extraMembers fields members)

def toMembers (content : DelayContent) : Table Value :=
  [("duration", .int content.duration), ("unit", wordValue content.unit),
    ("typing", .bool content.typing)] ++ Value.toPlainMembers content.extras

def totalSeconds (content : DelayContent) : Nat :=
  match content.unit with
  | .seconds => content.duration
  | .minutes => content.duration * 60
  | .hours => content.duration * 3600

end DelayContent

/-! ### Outbound requests -/

structure WebhookHeader where
  key : String
  value : Option String
  deriving DecidableEq, Repr

namespace WebhookHeader

def ofMembers (members : Table Value) : Checked WebhookHeader :=
  mk <$> required .text "key" members
    <*> withDefault (.optional .text) "value" (some "") members

def toMembers (header : WebhookHeader) : Table Value :=
  [("key", .str header.key), ("value", .ofText? header.value)]

def codec : Codec WebhookHeader :=
  ⟨decodeRecord .notRecord ofMembers, fun header => .obj header.toMembers⟩

end WebhookHeader

structure WebhookContent where
  url : String
  method : HttpMethod
  headers : List WebhookHeader
  body : Option String
  responseVariable : Option String
  responsePath : Option String
  timeout : Binary64
  continueOnError : Bool
  extras : Table Value
  deriving DecidableEq, Repr

namespace WebhookContent

def fields : List String :=
  ["url", "method", "headers", "body", "response_variable", "response_path", "timeout",
    "continue_on_error"]

def ofMembers (members : Table Value) : Checked WebhookContent :=
  mk <$> withDefault .text "url" "" members
    <*> withDefault (.word HttpMethod .unknownWord) "method" .post members
    <*> withDefault (.list WebhookHeader.codec) "headers" [] members
    <*> withDefault (.optional .text) "body" (some "") members
    <*> withDefault (.optional .text) "response_variable" (some "") members
    <*> withDefault (.optional .text) "response_path" (some "") members
    <*> withDefault (.realAbove 0) "timeout" (Binary64.ofInt 30) members
    <*> withDefault .boolean "continue_on_error" false members
    <*> .accepted (extraMembers fields members)

def toMembers (content : WebhookContent) : Table Value :=
  [("url", .str content.url), ("method", wordValue content.method),
    ("headers", (Codec.list WebhookHeader.codec).encode content.headers),
    ("body", .ofText? content.body), ("response_variable", .ofText? content.responseVariable),
    ("response_path", .ofText? content.responsePath), ("timeout", .real content.timeout),
    ("continue_on_error", .bool content.continueOnError)] ++ Value.toPlainMembers content.extras

end WebhookContent

end ChatFlow

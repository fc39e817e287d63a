import ChatFlow.Configuration
import ChatFlow.Graph.Shape
import ChatFlow.Net.Exchange
/-
Deliveries to the services around the engine: the messaging service, the customer records and the
mail relay. Each delivery is one JSON document posted to a path of the service.
-/

namespace ChatFlow

/-- A service that takes deliveries. -/
inductive Recipient where
  | channel | records | mail
  deriving DecidableEq, Repr

/-- A delivery: the service, the path there, and the document that is posted. -/
structure Posting where
  recipient : Recipient
  path : String
  payload : Table Value
  deriving DecidableEq, Repr

namespace Recipient

def addressSetting : Recipient → String
  | .channel => "CHANNEL_SERVICE_URL"
  | .records => "CRM_SERVICE_URL"
  | .mail => "EMAIL_SERVICE_URL"

/-- How a service is called in the middle of a message. -/
def name : Recipient → String
  | .channel => "channel service"
  | .records => "CRM service"
  | .mail => "email service"

/-- How a service is called at the start of a message. -/
def title : Recipient → String
  | .channel => "Channel service"
  | .records => "CRM service"
  | .mail => "Email service"

/-- The path as messages show it; the mail relay has one path only, which is not shown. -/
def shownPath (recipient : Recipient) (path : String) : String :=
  match recipient with
  | .mail => ""
  | _ => " " ++ path

/-- The address of a service without slashes at its end. -/
def address (configuration : Configuration) (recipient : Recipient) : Except Fault String := do
  let address ← configuration.getText recipient.addressSetting
  return String.ofList (Text.trimEndBy (· == '/') address.toList)

end Recipient

/-- The limit of time for exchanges with the services, in seconds. -/
def serviceTimeout (configuration : Configuration) : Except Fault Value := do
  return .real (← configuration.getReal "COLLABORATOR_TIMEOUT_SECONDS")

namespace Posting

/-! ### The messaging service -/

def message (conversation text kind mediaUrl : Value) : Posting :=
  ⟨.channel, "/message/send", [("conversation_id", conversation), ("message_type", kind),
    ("text", Shape.orElse text (.str "")), ("media_url", mediaUrl)]⟩

def typing (conversation seconds : Value) : Posting :=
  ⟨.channel, "/message/typing", [("conversation_id", conversation),
    ("duration_seconds", seconds)]⟩

/-- A message to a number outside of the conversation. -/
def external (conversation phone text : Value) : Posting :=
  ⟨.channel, "/message/external", [("conversation_id", conversation), ("phone_number", phone),
    ("text", text)]⟩

def transfer (conversation kind target : Value) : Posting :=
  ⟨.channel, "/conversation/transfer", [("conversation_id", conversation),
    ("transfer_type", kind), ("target_id", target)]⟩

def closing (conversation : Value) : Posting :=
  ⟨.channel, "/conversation/close", [("conversation_id", conversation)]⟩

/-! ### Customer records -/

def tagging (path : String) (organization conversation tag : Value) : Posting :=
  ⟨.records, path, [("organization_id", organization), ("conversation_id", conversation),
    ("tag_id", tag)]⟩

def addTag : Value → Value → Value → Posting := tagging "/tag/add"

def removeTag : Value → Value → Value → Posting := tagging "/tag/remove"

def task (organization conversation title description dueInDays : Value) : Posting :=
  ⟨.records, "/task/create", [("organization_id", organization),
    ("conversation_id", conversation), ("title", title),
    ("description", Shape.orElse description (.str "")), ("due_in_days", dueInDays)]⟩

def notification (organization conversation message : Value) : Posting :=
  ⟨.records, "/notification/create", [("organization_id", organization),
    ("conversation_id", conversation), ("message", message)]⟩

/-! ### The mail relay -/

def mail (organization recipient subject html : Value) : Posting :=
  ⟨.mail, "/send", [("organization_id", organization), ("to", recipient), ("subject", subject),
    ("html", html)]⟩

/-- Posts a delivery. A status of 300 and more is a failure of the service. -/
def post (base : String) (timeout : Value) (posting : Posting) : Exchange Unit := do
  let shown := posting.recipient.shownPath posting.path
  let reply ← Exchange.reporting
    ("Timeout calling " ++ posting.recipient.name ++ shown)
    ("Error calling " ++ posting.recipient.name ++ shown)
    (Exchange.request timeout "POST" (base ++ posting.path) [] [] (.json (.obj posting.payload)))
  if 300 ≤ reply.statusCode then
    Exchange.failure (posting.recipient.title ++ shown ++ " returned " ++
      toString reply.statusCode)
  else return ()

end Posting

end ChatFlow

import ChatFlow.Service.Completion
import ChatFlow.Service.History
import ChatFlow.Service.Outbound
import ChatFlow.Simulation.Script
/-
A net that is scripted: every request gets the same reply, or fails in the same way; requests and
the time limits of clients are recorded.
-/

namespace ChatFlow

structure Wire where
  response : Table Value
  sent : List Value
  timeouts : List Value

namespace Wire

open Arguments

def shownHeaders (headers : Table String) : Table String :=
  let own := ["host", "accept", "accept-encoding", "connection", "user-agent", "content-length"]
  headers.filter fun header => !own.contains header.1

/-- What a request carries, as it is recorded: a value where it is declared to be JSON, and text
otherwise. -/
def contentMember (request : WireRequest) : String × Value :=
  let content := request.body.content
  let plain := ("content", Value.str content)
  if content.isEmpty || Table.lookup? "content-type" request.headers ≠ some "application/json" then
    plain
  else
    match Json.ofText content with
    | .ok value => ("json", value)
    | .error _ => plain

def row (request : WireRequest) : Value :=
  .obj [("method", .str request.method), ("url", .str request.address.text),
    ("headers", .ofTextTable (shownHeaders request.headers)), contentMember request]

/-- The fault that the script raises, if it raises one. -/
def fault? (response : Table Value) : Option Fault :=
  let message := text "message" response
  (text? "raise" response).map fun kind =>
    if ["connect_timeout", "read_timeout", "write_timeout", "pool_timeout"].contains kind then
      .timedOut message
    else .transportFailed message

def reply (response : Table Value) : WireReply where
  statusCode := integerOr 200 "status" response
  headers := (members "headers" response).map fun header =>
    (String.ofList (header.1.toList.map Number.asciiLower), header.2.spoken)
  bytes :=
    match text? "body_b64" response with
    | some coded => Text.base64Decode coded.toList
    | none => Text.utf8Bytes (text "body" response)

/-- Records a call and answers it as scripted. -/
def answer : (request : WireCall) → Wire → Except Fault request.Answer × Wire
  | .openClient timeout, wire => (.ok (), { wire with timeouts := wire.timeouts ++ [timeout] })
  | .send request, wire =>
      let recorded := { wire with sent := wire.sent ++ [row request] }
      match fault? wire.response with
      | some fault => (.error fault, recorded)
      | none => (.ok (reply wire.response), recorded)

/-! ### Calls of services -/

/-- The delivery that a name and arguments stand for. -/
def posting? (service method : String) (arguments : Table Value) : Option Posting :=
  let given (name : String) : Value := value name arguments
  let conversation := given "conversation_id"
  let organization := given "organization_id"
  match service, method with
  | "channel", "send_message" =>
      let kind := if Table.has "message_type" arguments then given "message_type" else .str "text"
      some (.message conversation (given "text") kind (given "media_url"))
  | "channel", "send_typing" => some (.typing conversation (given "duration_seconds"))
  | "channel", "send_external_message" =>
      some (.external conversation (given "phone_number") (given "text"))
  | "channel", "transfer_conversation" =>
      some (.transfer conversation (given "transfer_type") (given "target_id"))
  | "channel", "close_conversation" => some (.closing conversation)
  | "crm", "add_tag" => some (.addTag organization conversation (given "tag_id"))
  | "crm", "remove_tag" => some (.removeTag organization conversation (given "tag_id"))
  | "crm", "create_task" =>
      some (.task organization conversation (given "title") (given "description")
        (given "due_in_days"))
  | "crm", "notify_users" => some (.notification organization conversation (given "message"))
  | "email", "send" =>
      some (.mail organization (given "to") (given "subject") (given "html"))
  | _, _ => none

/-- Half a minute, the limit of time of a request that names none. -/
def defaultTimeout : Value := .real (Binary64.ofInt 30)

/-- How freely a model answers when nothing is said of it: 0.7. -/
def defaultTemperature : Value := .real (Binary64.ofDecimal false 7 1 (-1))

def answerMembers (answer : HttpAnswer) : Value :=
  .obj [("status_code", .int answer.statusCode), ("body", .str answer.body),
    ("json_body", answer.json.toPlain)]

/-- The content of a request: given as it is, or as JSON text. -/
def content (arguments : Table Value) : Except Fault Value :=
  if Table.has "body_json" arguments then Scripts.written "body_json" arguments
  else .ok (value "body" arguments)

/-- The program that a name of a service, a name of one of its methods and arguments stand for. -/
def program (configuration : Configuration) (service method : String) (arguments : Table Value) :
    Except Fault (Exchange Value) := do
  match posting? service method arguments with
  | some posting =>
      let base ← posting.recipient.address configuration
      let timeout ← serviceTimeout configuration
      return (fun _ => .null) <$> posting.post base timeout
  | none =>
      match service, method with
      | "channel", "get_history" =>
          let base ← Recipient.channel.address configuration
          let timeout ← serviceTimeout configuration
          return Value.arr <$> History.get base timeout
            (value "conversation_id" arguments).spoken (integerOr 10 "limit" arguments)
      | "ai", "complete" =>
          let access ← ModelAccess.ofConfiguration configuration
          let temperature :=
            if Table.has "temperature" arguments then value "temperature" arguments
            else defaultTemperature
          return Value.str <$> Completion.complete access (value "messages" arguments)
            (value "model" arguments) temperature (value "timeout" arguments)
      | "http", "call" =>
          let content ← content arguments
          let timeout :=
            if Table.has "timeout" arguments then value "timeout" arguments else defaultTimeout
          let method := String.ofList ((text "method" arguments).toList.map Char.toUpper)
          return answerMembers <$> Outbound.call method (text "url" arguments)
            (members "headers" arguments) content timeout
      | _, _ => throw .unknownName

/-- Runs a call of a service on a net that answers as scripted. -/
def run (configuration : Configuration) (service method : String)
    (arguments response : Table Value) : Except Fault (Except Fault Value × Wire) := do
  let program ← program configuration service method arguments
  return Program.run answer program ⟨response, [], []⟩

end Wire

end ChatFlow

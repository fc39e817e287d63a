import ChatFlow.Program
import ChatFlow.Flow.Basic
import ChatFlow.Flow.Version
import ChatFlow.Session.Basic
import ChatFlow.Session.Delay
import ChatFlow.Session.Log
import ChatFlow.Engine.Effect
/-
The calls that the engine makes: to the store, to the clock, and to the services around it.
-/

namespace ChatFlow

/-! ### The store -/

/-- The operations of a flow store. -/
inductive StoreCall where
  | createFlow (flow : Flow)
  | getFlow (id : String)
  | getOwnedFlow (organization id : String)
  | flowsOf (organization : String)
  | updateFlow (organization id : String) (settings : Table Value)
  | deleteFlow (organization id : String)
  | replaceGraph (id : String) (expected : Int) (nodes edges : List Value) (editor : Option String)
  | triggerCandidates (organization : String)
  | saveVersion (version : FlowVersion)
  | versionsOf (flow : String)
  | getVersion (flow : String) (version : Int)
  | createSession (session : Session)
  | getSession (id : String)
  | activeSession (conversation : String)
  | updateSession (session : Session) (expected : Int)
  | activeSessionsOf (flow : String)
  | saveDelay (delay : Delay)
  | pendingDelays (now : Stamp)
  | markDelay (id : String)
  | markSessionDelays (session : Option String)
  | saveLogs (entries : List LogEntry)
  | getLogs (organization : String) (conversation : Option String) (limit : Int)
  | deleteLogs (organization : String) (conversation : Option String)

def StoreCall.Answer : StoreCall → Type
  | .createFlow _ => Flow
  | .getFlow _ => Option Flow
  | .getOwnedFlow .. => Option Flow
  | .flowsOf _ => List Flow
  | .updateFlow .. => Option Flow
  | .deleteFlow .. => Bool
  | .replaceGraph .. => Option Flow
  | .triggerCandidates _ => List Flow
  | .saveVersion _ => Bool
  | .versionsOf _ => List FlowVersion
  | .getVersion .. => Option FlowVersion
  | .createSession _ => Session
  | .getSession _ => Option Session
  | .activeSession _ => Option Session
  | .updateSession .. => Session
  | .activeSessionsOf _ => List Session
  | .saveDelay _ => Delay
  | .pendingDelays _ => List Delay
  | .markDelay _ => Bool
  | .markSessionDelays _ => Nat
  | .saveLogs _ => Unit
  | .getLogs .. => List LogEntry
  | .deleteLogs .. => Nat

/-! ### Services -/

/-- A completion asked of a language model. -/
structure AiRequest where
  messages : List Value
  model : Option String
  temperature : Binary64
  deriving DecidableEq, Repr

/-- An outbound request; a null body is no body. -/
structure HttpRequest where
  method : HttpMethod
  url : String
  headers : Table String
  body : Value
  timeout : Binary64
  deriving DecidableEq, Repr

/-- The answer to an outbound request: its body as text, and as JSON when it is JSON. -/
structure HttpAnswer where
  statusCode : Int
  body : String
  json : Value
  deriving DecidableEq, Repr

/-- Whether the status code says that the request succeeded. -/
def HttpAnswer.isOk (answer : HttpAnswer) : Bool :=
  200 ≤ answer.statusCode && answer.statusCode < 300

/-- One delivery to the messaging service, the customer records or the mail relay. -/
inductive Delivery where
  | sendMessage (conversation : String) (text : Option String) (kind : MessageKind)
      (mediaUrl : Option String)
  | sendTyping (conversation : String) (seconds : Binary64)
  | sendExternal (conversation phone text : String)
  | transfer (conversation : String) (kind : TransferKind) (target : Option String)
  | close (conversation : String)
  | addTag (organization conversation tag : String)
  | removeTag (organization conversation tag : String)
  | createTask (organization conversation title : String) (description : Option String)
      (dueInDays : Option Int)
  | notifyUsers (organization conversation message : String)
  | sendEmail (organization recipient subject html : String)
  deriving DecidableEq, Repr

/-- Any call of the engine. -/
inductive Call where
  | store (request : StoreCall)
  | clock
  | complete (request : AiRequest)
  | http (request : HttpRequest)
  | history (conversation : String) (limit : Nat)
  | deliver (delivery : Delivery)
  | sleep (seconds : Binary64)

def Call.Answer : Call → Type
  | .store request => request.Answer
  | .clock => Stamp
  | .complete _ => Value
  | .http _ => HttpAnswer
  | .history .. => List Value
  | .deliver _ => Unit
  | .sleep _ => Unit

/-- A program of the engine. -/
abbrev Engine (α : Type) := Program Call.Answer α

namespace Engine

def store (request : StoreCall) : Engine request.Answer :=
  Program.perform (Call.store request)

def now : Engine Stamp := Program.perform Call.clock

/-- Asks a language model for a completion; its reply may be any value. -/
def complete (request : AiRequest) : Engine Value :=
  Program.perform (Call.complete request)

/-- Sends an outbound request. -/
def http (request : HttpRequest) : Engine HttpAnswer :=
  Program.perform (Call.http request)

/-- Reads the last turns of a conversation. -/
def history (conversation : String) (limit : Nat) : Engine (List Value) :=
  Program.perform (Call.history conversation limit)

def deliver (delivery : Delivery) : Engine Unit :=
  Program.perform (Call.deliver delivery)

def sleep (seconds : Binary64) : Engine Unit :=
  Program.perform (Call.sleep seconds)

end Engine

end ChatFlow

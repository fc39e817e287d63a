import ChatFlow.Simulation.Script
import ChatFlow.Store.Basic
/-
The world that the engine runs in while it is simulated: a clock that stands still, a store in
memory, scripted services, and a record of the calls made to them.
-/

namespace ChatFlow

structure World where
  now : Stamp
  store : Store
  scripts : Scripts
  outcomes : Table (List StoreOutcome)
  calls : List Value

/-! ### Records of calls -/

def callRecord (name : String) (arguments : Table Value) : Value :=
  .obj [("call", .str name), ("args", .obj arguments)]

namespace Delivery

def name : Delivery → String
  | .sendMessage .. => "channel.send_message"
  | .sendTyping .. => "channel.send_typing"
  | .sendExternal .. => "channel.send_external_message"
  | .transfer .. => "channel.transfer_conversation"
  | .close _ => "channel.close_conversation"
  | .addTag .. => "crm.add_tag"
  | .removeTag .. => "crm.remove_tag"
  | .createTask .. => "crm.create_task"
  | .notifyUsers .. => "crm.notify_users"
  | .sendEmail .. => "email.send"

def arguments : Delivery → Table Value
  | .sendMessage conversation text kind mediaUrl =>
      [("conversation_id", .str conversation), ("text", .ofText? text),
        ("message_type", wordValue kind), ("media_url", .ofText? mediaUrl)]
  | .sendTyping conversation seconds =>
      [("conversation_id", .str conversation), ("duration_seconds", .real seconds)]
  | .sendExternal conversation phone text =>
      [("conversation_id", .str conversation), ("phone_number", .str phone), ("text", .str text)]
  | .transfer conversation kind target =>
      [("conversation_id", .str conversation), ("transfer_type", wordValue kind),
        ("target_id", .ofText? target)]
  | .close conversation => [("conversation_id", .str conversation)]
  | .addTag organization conversation tag =>
      [("organization_id", .str organization), ("conversation_id", .str conversation),
        ("tag_id", .str tag)]
  | .removeTag organization conversation tag =>
      [("organization_id", .str organization), ("conversation_id", .str conversation),
        ("tag_id", .str tag)]
  | .createTask organization conversation title description dueInDays =>
      [("organization_id", .str organization), ("conversation_id", .str conversation),
        ("title", .str title), ("description", .ofText? description),
        ("due_in_days", .ofInt? dueInDays)]
  | .notifyUsers organization conversation message =>
      [("organization_id", .str organization), ("conversation_id", .str conversation),
        ("message", .str message)]
  | .sendEmail organization recipient subject html =>
      [("organization_id", .str organization), ("to", .str recipient), ("subject", .str subject),
        ("html", .str html)]

end Delivery

/-- The name under which an operation of the store is scripted. -/
def StoreCall.name : StoreCall → String
  | .createFlow _ => "create_flow"
  | .getFlow _ => "get_flow"
  | .getOwnedFlow .. => "get_flow_for_organization"
  | .flowsOf _ => "get_flows_by_organization"
  | .updateFlow .. => "update_flow_fields"
  | .deleteFlow .. => "delete_flow"
  | .replaceGraph .. => "replace_flow_graph"
  | .triggerCandidates _ => "get_trigger_candidates"
  | .saveVersion _ => "save_flow_version"
  | .versionsOf _ => "get_flow_versions"
  | .getVersion .. => "get_flow_version"
  | .createSession _ => "create_session"
  | .getSession _ => "get_session"
  | .activeSession _ => "get_active_session"
  | .updateSession .. => "update_session"
  | .activeSessionsOf _ => "get_active_sessions_by_flow"
  | .saveDelay _ => "save_delay"
  | .pendingDelays _ => "get_pending_delays"
  | .markDelay _ => "mark_delay_as_processed"
  | .markSessionDelays _ => "mark_session_delays_processed"
  | .saveLogs _ => "save_execution_logs"
  | .getLogs .. => "get_execution_logs"
  | .deleteLogs .. => "delete_execution_logs"

/-! ### Answers of a scripted store -/

/-- The answer that says that nothing was found or done; operations that always give a row have
none. -/
def StoreCall.nothing? : (request : StoreCall) → Option request.Answer
  | .getFlow _ => some none
  | .getOwnedFlow .. => some none
  | .updateFlow .. => some none
  | .replaceGraph .. => some none
  | .getVersion .. => some none
  | .getSession _ => some none
  | .activeSession _ => some none
  | .deleteFlow .. => some false
  | .saveVersion _ => some false
  | .markDelay _ => some false
  | .pendingDelays _ => some []
  | .markSessionDelays _ => some (0 : Nat)
  | .deleteLogs .. => some (0 : Nat)
  | .saveLogs _ => some ()
  | _ => none

/-- A flow with some members changed; it stays as it is where that is no flow. -/
def Flow.altered (now : Stamp) (changes : Table Value) (flow : Flow) : Flow :=
  match Flow.ofMembers now (Table.putAll flow.toMembers changes) with
  | .accepted changed => changed
  | .rejected _ => flow

/-- A session with some members changed; it stays as it is where that is no session. -/
def Session.altered (now : Stamp) (changes : Table Value) (session : Session) : Session :=
  match Session.ofMembers now (Table.putAll session.toMembers changes) with
  | .accepted changed => changed
  | .rejected _ => session

/-- An answer with some members of its row changed. -/
def StoreCall.alter (now : Stamp) (changes : Table Value) :
    (request : StoreCall) → request.Answer → request.Answer
  | .createFlow _, (flow : Flow) => flow.altered now changes
  | .getFlow _, (found : Option Flow) => found.map (Flow.altered now changes)
  | .getOwnedFlow .., (found : Option Flow) => found.map (Flow.altered now changes)
  | .updateFlow .., (found : Option Flow) => found.map (Flow.altered now changes)
  | .replaceGraph .., (found : Option Flow) => found.map (Flow.altered now changes)
  | .createSession _, (session : Session) => session.altered now changes
  | .updateSession .., (session : Session) => session.altered now changes
  | .getSession _, (found : Option Session) => found.map (Session.altered now changes)
  | .activeSession _, (found : Option Session) => found.map (Session.altered now changes)
  | _, answer => answer

namespace World

def atStart (now : Stamp) : World where
  now := now
  store := Store.empty
  scripts := Scripts.initial
  outcomes := []
  calls := []

/-- The next outcome of an operation, which is used up. -/
def nextOutcome (name : String) (world : World) : StoreOutcome × World :=
  match Table.lookup? name world.outcomes with
  | some (outcome :: rest) =>
      (outcome, { world with outcomes := Table.put name rest world.outcomes })
  | _ => (.through, world)

/-- Answers a call from the store itself. -/
def askStore (request : StoreCall) (world : World) : Except Fault request.Answer × World :=
  let (answer, store) := world.store.answer world.now request
  (answer, { world with store })

def answerStore (request : StoreCall) (world : World) : Except Fault request.Answer × World :=
  let (outcome, world) := world.nextOutcome request.name
  match outcome with
  | .through => world.askStore request
  | .failure fault => (.error fault, world)
  | .absent | .refused =>
      match request.nothing? with
      | some answer => (.ok answer, world)
      | none => (.error .notARecord, world)
  | .altered changes =>
      let (answer, later) := world.askStore request
      (answer.map (request.alter world.now changes), later)

/-- Records a call to a service; a call of a failing name fails, any other gives the answer. -/
def serve {α : Type} (name : String) (arguments : Table Value) (answer : Except Fault α)
    (world : World) : Except Fault α × World :=
  let recorded := { world with calls := world.calls ++ [callRecord name arguments] }
  match Table.lookup? name world.scripts.failing with
  | some fault => (.error fault, recorded)
  | none => (answer, recorded)

def lastItems {α : Type} (count : Nat) (items : List α) : List α :=
  items.drop (items.length - count)

def answer : (request : Call) → World → Except Fault request.Answer × World
  | .store request, world => world.answerStore request
  | .clock, world => (.ok world.now, world)
  | .complete request, world =>
      world.serve "ai.complete"
        [("messages", .arr request.messages), ("model", .ofText? request.model),
          ("temperature", .real request.temperature)] world.scripts.reply
  | .http request, world =>
      world.serve "http.call"
        [("method", wordValue request.method), ("url", .str request.url),
          ("headers", .ofTextTable request.headers), ("body", request.body),
          ("timeout", .real request.timeout)] world.scripts.http
  | .history conversation limit, world =>
      world.serve "channel.get_history"
        [("conversation_id", .str conversation), ("limit", .int limit)]
        (world.scripts.history.map (lastItems limit))
  | .deliver delivery, world => world.serve delivery.name delivery.arguments (.ok ())
  | .sleep seconds, world => world.serve "sleep" [("seconds", .real seconds)] (.ok ())

/-- Runs a program of the engine. -/
def run {α : Type} (program : Engine α) (world : World) : Except Fault α × World :=
  Program.run answer program world

/-- The world after its clock has moved by a number of seconds, unless there is no such time; what
is no number moves nothing. -/
def advanced? (seconds : Value) (world : World) : Option World :=
  let moved := match seconds with
    | .int seconds => world.now.addSeconds? seconds
    | .real seconds => world.now.addReal? seconds
    | _ => some world.now
  moved.map fun now => { world with now }

/-- The world with scripts of services and outcomes of store calls replaced. -/
def scripted (given : Table Value) (world : World) : World :=
  { world with
    scripts := world.scripts.change given
    outcomes :=
      Table.putAll world.outcomes (StoreOutcome.ofTable (Arguments.members "db" given)) }

/-- The calls recorded since they were last taken. -/
def takeCalls (world : World) : List Value × World := (world.calls, { world with calls := [] })

end World

end ChatFlow

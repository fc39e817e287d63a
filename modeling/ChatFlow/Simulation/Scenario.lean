import ChatFlow.Engine.Reception
import ChatFlow.Engine.Timer
import ChatFlow.Flow.Management
import ChatFlow.Simulation.World
/-
Scenarios: steps that are carried out one after the other in one world. A step asks the engine, the
management of flows or the messaging side for something, or changes the world itself.
-/

namespace ChatFlow

/-- A world with the services of the flow engine set up in it. -/
structure Scenario where
  world : World
  settings : EngineSettings
  logLimit : Int
  timerHasEngine : Bool
  managementHasEngine : Bool

/-- What a step came to, with the calls that it made to services. -/
structure StepResult where
  outcome : Except Fault Value
  calls : List Value

namespace Scenario

open Arguments

/-- The time at which every scenario starts. -/
def startTime : Stamp := Stamp.ofParts ⟨2026, 1, 1⟩ 0 0 0 0

def defaultMaxSteps : Int := 50

def defaultLogLimit : Int := 200

def initial (maxSteps logLimit : Int) : Scenario where
  world := World.atStart startTime
  settings := ⟨Services.all, maxSteps⟩
  logLimit := logLimit
  timerHasEngine := true
  managementHasEngine := true

/-! ### Arguments of steps -/

def organization (arguments : Table Value) : String := textOr "org_1" "org" arguments

def conversation (arguments : Table Value) : String := textOr "conv_1" "conversation" arguments

def flowId (arguments : Table Value) : String := text "flow_id" arguments

/-- Reads a request; its issues are those of the request. -/
def request {α : Type} (ofMembers : Table Value → Checked α) (given : Value) : Except Fault α :=
  match Schema.decodeRecord .notRecord ofMembers given with
  | .accepted request => .ok request
  | .rejected issues => .error (.invalidData issues)

/-! ### Values of results -/

/-- A log row as it is shown: what a failed evaluation said is left out. -/
def Results.logRow (entry : LogEntry) : Value :=
  if entry.kind = .error && entry.nodeType.isSome then
    { entry with message := some "<exception>" }.toValue
  else entry.toValue

def Results.count (program : Engine Nat) : Engine Value := do
  let number ← program
  return .int number

/-! ### Steps that run programs -/

def inboundMessage (arguments : Table Value) : InboundMessage where
  organization := organization arguments
  connection := text? "connection" arguments <|>
    (if Table.has "connection" arguments then none else some "conn_1")
  conversation := conversation arguments
  text := text? "text" arguments
  kind := "text"
  contactName := text? "contact_name" arguments
  contactPhone := text? "contact_phone" arguments

def startRequest (arguments : Table Value) : StartRequest where
  flow := flowId arguments
  conversation := conversation arguments
  connection := text? "connection" arguments
  contactName := text? "contact_name" arguments
  contactPhone := text? "contact_phone" arguments
  bag := Event.variablesOf (ofPairs (items "variables" arguments))

/-- How often a background loop polls before it is stopped. -/
def backgroundPolls : Nat := 4

/-- Polls again and again, whatever comes of it. -/
def pollRepeatedly (settings : EngineSettings) : Nat → Engine Unit
  | 0 => return ()
  | polls + 1 => do
      discard (Program.outcome (Timer.poll settings))
      pollRepeatedly settings polls

/-- Steps that put rows into the store. -/
def seedProgram? (now : Stamp) (name : String) (arguments : Table Value) :
    Option (Except Fault (Engine Value)) :=
  match name with
  | "seed_flow" => some do
      let flow ← request (Flow.ofMembers now) (value "flow" arguments)
      return Flow.toValue <$> Engine.store (.createFlow flow)
  | "seed_session" => some do
      let session ← request (Session.ofMembers now) (value "session" arguments)
      return Session.toValue <$> Engine.store (.createSession session)
  | _ => none

def managementProgram? (hasEngine : Bool) (name : String) (arguments : Table Value) :
    Option (Except Fault (Engine Value)) :=
  let organization := organization arguments
  let flow := flowId arguments
  let editor := text? "user" arguments
  let number := integerOr 0 "version" arguments
  match name with
  | "create_flow" => some do
      let asked ← request NewFlow.ofMembers (value "request" arguments)
      return Flow.toValue <$> Management.create organization editor asked
  | "update_flow" => some do
      let asked ← request FlowUpdate.ofMembers (value "request" arguments)
      return Flow.toValue <$> Management.update hasEngine organization flow asked
  | "toggle_flow" => some (.ok (Flow.toValue <$> Management.toggle hasEngine organization flow))
  | "delete_flow" => some (.ok do
      Management.delete hasEngine organization flow
      return .bool true)
  | "get_canvas" => some (.ok (Management.canvas organization flow))
  | "detail" => some (.ok (Flow.toValue <$> Management.owned organization flow))
  | "save_canvas" => some (.ok (Flow.toValue <$>
      Management.saveCanvas organization flow (items "nodes" arguments) (items "edges" arguments)
        editor))
  | "duplicate_flow" => some (.ok (Flow.toValue <$>
      Management.duplicate organization flow editor))
  | "list_flows" => some (.ok do
      Program.ofExcept (Management.summaries (← Management.list organization)))
  | "available" => some (.ok do
      let flows ← Management.available organization (text? "connection" arguments)
      return .arr (flows.map fun flow => .ofText? flow.id))
  | "versions" => some (.ok do
      return .arr ((← Management.versions organization flow).map FlowVersion.toValue))
  | "version" => some (.ok (FlowVersion.toValue <$>
      Management.version organization flow number))
  | "restore" => some (.ok (Flow.toValue <$>
      Management.restore organization flow number editor))
  | _ => none

def eventProgram? (settings : EngineSettings) (name : String) (arguments : Table Value) :
    Option (Except Fault (Engine Value)) :=
  let organization := organization arguments
  let conversation := conversation arguments
  match name with
  | "inbound" => some (.ok (EventReport.toValue <$>
      Event.inbound settings (inboundMessage arguments)))
  | "webhook_message" => some do
      let message ← request InboundMessage.ofMembers (value "request" arguments)
      return Receipt.toValue <$> receive settings message
  | "match_trigger" => some (.ok do
      let found ← Trigger.flowFor organization (text? "connection" arguments)
        (text? "text" arguments)
      return .ofText? (found.bind Flow.id))
  | "start_flow" => some (.ok (EventReport.toValue <$>
      Event.start settings organization (startRequest arguments) (text? "user" arguments)))
  | "resume" => some (.ok (EventReport.toValue <$>
      Event.resume settings conversation (text "session_id" arguments) (text "node_id" arguments)))
  | "cancel" => some (.ok (EventReport.toValue <$>
      Event.cancel organization conversation (textOr "cancelled" "reason" arguments)))
  | "cancel_flow_sessions" => some (.ok (Results.count
      (Event.cancelFlowSessions (flowId arguments) (textOr "flow_disabled" "reason" arguments))))
  | "active_session" => some (.ok (Session.toValue <$>
      Event.activeSession organization conversation))
  | "session" => some (.ok do
      let found ← Engine.store (.getSession (text "session_id" arguments))
      return (found.map Session.toValue).getD .null)
  | _ => none

/-- Steps that poll timers or read the log. -/
def serviceProgram? (scenario : Scenario) (name : String) (arguments : Table Value) :
    Option (Except Fault (Engine Value)) :=
  let organization := organization arguments
  let conversation := conversation arguments
  match name with
  | "process_due" => some (.ok
      (if scenario.timerHasEngine then Results.count (Timer.poll scenario.settings)
      else return .int 0))
  | "run_scheduler" => some (.ok do
      if scenario.timerHasEngine then pollRepeatedly scenario.settings backgroundPolls
      return .bool true)
  | "get_logs" => some (.ok do
      let asked := integerOr 0 "limit" arguments
      let limit := if asked = 0 then scenario.logLimit else asked
      let rows ← Engine.store (.getLogs organization (some conversation) limit)
      return .arr (rows.map Results.logRow))
  | "clear_logs" => some (.ok (Results.count
      (Engine.store (.deleteLogs organization (some conversation)))))
  | _ => none

/-- The program of a step, if the step runs one. -/
def program? (scenario : Scenario) (name : String) (arguments : Table Value) :
    Option (Except Fault (Engine Value)) :=
  seedProgram? scenario.world.now name arguments <|>
    managementProgram? scenario.managementHasEngine name arguments <|>
    eventProgram? scenario.settings name arguments <|>
    scenario.serviceProgram? name arguments

/-! ### Steps that change the world -/

/-- Moves the clock; the result is the new time. -/
def advance (arguments : Table Value) (scenario : Scenario) : Except Fault Value × Scenario :=
  match scenario.world.advanced? (value "seconds" arguments) with
  | some world => (.ok (.stamp world.now), { scenario with world })
  | none => (.error .stampOutOfRange, scenario)

def dumpFlow (flow : Flow) : Value :=
  .obj [("id", .ofText? flow.id), ("name", .str flow.name), ("version", .int flow.version),
    ("is_active", .bool flow.isActive), ("is_draft", .bool flow.isDraft),
    ("trigger_enabled", .bool flow.triggerEnabled)]

def versionKeys (store : Store) : List (String × Int) :=
  (store.versions.map Prod.fst).mergeSort fun left right =>
    if left.1 = right.1 then left.2 ≤ right.2 else Issue.noLater left.1.toList right.1.toList

def dump (store : Store) : Value :=
  .obj [("flows", .arr (store.flows.map fun entry => dumpFlow entry.2)),
    ("versions", .arr ((versionKeys store).map fun key => .arr [.str key.1, .int key.2])),
    ("sessions", .arr (store.sessions.map fun entry => entry.2.toValue)),
    ("active", .ofTextTable store.active),
    ("delays", .arr (store.delays.map fun entry => entry.2.toValue)),
    ("log_count", .int store.logs.length)]

/-- Carries out a step that runs no program. -/
def control (name : String) (arguments : Table Value) (scenario : Scenario) :
    Except Fault Value × Scenario :=
  match name with
  | "advance" => scenario.advance arguments
  | "script" => (.ok .null, { scenario with world := scenario.world.scripted arguments })
  | "detach_engine" =>
      (.ok .null,
        if text "from" arguments = "scheduler" then { scenario with timerHasEngine := false }
        else { scenario with managementHasEngine := false })
  | "dump" => (.ok (dump scenario.world.store), scenario)
  | _ => (.error .unknownName, scenario)

/-! ### Running a scenario -/

/-- Carries out a step. -/
def perform (step : Value) (scenario : Scenario) : StepResult × Scenario :=
  let arguments := match step with
    | .obj members => members
    | _ => []
  let name := text "do" arguments
  let (outcome, later) := match scenario.program? name arguments with
    | some (.ok program) =>
        let (outcome, world) := scenario.world.run program
        (outcome, { scenario with world })
    | some (.error fault) => (.error fault, scenario)
    | none => scenario.control name arguments
  let (calls, world) := later.world.takeCalls
  (⟨outcome, calls⟩, { later with world })

/-- Carries out steps in order. -/
def performAll : List Value → Scenario → List StepResult
  | [], _ => []
  | step :: rest, scenario =>
      let (result, later) := scenario.perform step
      result :: performAll rest later

end Scenario

end ChatFlow

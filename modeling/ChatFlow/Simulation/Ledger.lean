import ChatFlow.Simulation.Scenario
/-
Steps carried out on a bare store: each names an operation of the store with its arguments, or moves
the clock.
-/

namespace ChatFlow.Ledger

open Arguments

def rows {α : Type} (toValue : α → Value) (found : List α) : Value := .arr (found.map toValue)

/-- A row, or null where there is none. -/
def row? {α : Type} (toValue : α → Value) (found : Option α) : Value :=
  (found.map toValue).getD .null

def answerValue : (request : StoreCall) → request.Answer → Value
  | .createFlow _, (flow : Flow) => flow.toValue
  | .getFlow _, (found : Option Flow) => row? Flow.toValue found
  | .getOwnedFlow .., (found : Option Flow) => row? Flow.toValue found
  | .flowsOf _, (found : List Flow) => rows Flow.toValue found
  | .updateFlow .., (found : Option Flow) => row? Flow.toValue found
  | .deleteFlow .., (done : Bool) => .bool done
  | .replaceGraph .., (found : Option Flow) => row? Flow.toValue found
  | .triggerCandidates _, (found : List Flow) => rows Flow.toValue found
  | .saveVersion _, (done : Bool) => .bool done
  | .versionsOf _, (found : List FlowVersion) => rows FlowVersion.toValue found
  | .getVersion .., (found : Option FlowVersion) => row? FlowVersion.toValue found
  | .createSession _, (session : Session) => session.toValue
  | .getSession _, (found : Option Session) => row? Session.toValue found
  | .activeSession _, (found : Option Session) => row? Session.toValue found
  | .updateSession .., (session : Session) => session.toValue
  | .activeSessionsOf _, (found : List Session) => rows Session.toValue found
  | .saveDelay _, (delay : Delay) => delay.toValue
  | .pendingDelays _, (found : List Delay) => rows Delay.toValue found
  | .markDelay _, (done : Bool) => .bool done
  | .markSessionDelays _, (count : Nat) => .int count
  | .saveLogs _, _ => .null
  | .getLogs .., (found : List LogEntry) => rows LogEntry.toValue found
  | .deleteLogs .., (count : Nat) => .int count

/-- Most rows of a log that are given when no limit is named. -/
def defaultLimit : Int := 100

/-- An operation on flows and their versions. -/
def flowCall? (now : Stamp) (name : String) (arguments : Table Value) :
    Option (Except Fault StoreCall) :=
  let organization := text "organization_id" arguments
  let flow := text "flow_id" arguments
  match name with
  | "create_flow" => some (.createFlow <$>
      Scenario.request (Flow.ofMembers now) (.obj arguments))
  | "get_flow" => some (.ok (.getFlow flow))
  | "get_flow_for_organization" => some (.ok (.getOwnedFlow organization flow))
  | "get_flows_by_organization" => some (.ok (.flowsOf organization))
  | "update_flow_fields" => some (.ok
      (.updateFlow organization flow (members "fields" arguments)))
  | "delete_flow" => some (.ok (.deleteFlow organization flow))
  | "replace_flow_graph" => some (.ok
      (.replaceGraph flow (integerOr 0 "expected_version" arguments) (items "nodes" arguments)
        (items "edges" arguments) (text? "editor_id" arguments)))
  | "get_trigger_candidates" => some (.ok (.triggerCandidates organization))
  | "save_flow_version" => some (.saveVersion <$>
      Scenario.request (FlowVersion.ofMembers now) (.obj arguments))
  | "get_flow_versions" => some (.ok (.versionsOf flow))
  | "get_flow_version" => some (.ok (.getVersion flow (integerOr 0 "version" arguments)))
  | _ => none

def sessionCall? (now : Stamp) (name : String) (arguments : Table Value) :
    Option (Except Fault StoreCall) :=
  match name with
  | "create_session" => some (.createSession <$>
      Scenario.request (Session.ofMembers now) (.obj arguments))
  | "get_session" => some (.ok (.getSession (text "session_id" arguments)))
  | "get_active_session" => some (.ok (.activeSession (text "conversation_id" arguments)))
  | "update_session" => some do
      let session ← Scenario.request (Session.ofMembers now) (value "session" arguments)
      return .updateSession session (integerOr 0 "expected_revision" arguments)
  | "get_active_sessions_by_flow" => some (.ok (.activeSessionsOf (text "flow_id" arguments)))
  | _ => none

/-- An operation on timer jobs and log rows. -/
def traceCall? (now : Stamp) (name : String) (arguments : Table Value) :
    Option (Except Fault StoreCall) :=
  let organization := text "organization_id" arguments
  let conversation := text? "conversation_id" arguments
  match name with
  | "save_delay" => some (.saveDelay <$>
      Scenario.request (Delay.ofMembers now) (.obj arguments))
  | "get_pending_delays" => some (match Schema.decodeStamp (value "now" arguments) with
      | .accepted time => .ok (.pendingDelays time)
      | .rejected issues => .error (.invalidData issues))
  | "mark_delay_as_processed" => some (.ok (.markDelay (text "delay_id" arguments)))
  | "mark_session_delays_processed" => some (.ok
      (.markSessionDelays (text? "session_id" arguments)))
  | "save_execution_logs" => some (.saveLogs <$>
      (items "logs" arguments).mapM (Scenario.request (LogEntry.ofMembers now)))
  | "get_execution_logs" => some (.ok
      (.getLogs organization conversation (integerOr defaultLimit "limit" arguments)))
  | "delete_execution_logs" => some (.ok (.deleteLogs organization conversation))
  | _ => none

/-- The store operation that a step names. -/
def call? (now : Stamp) (name : String) (arguments : Table Value) :
    Option (Except Fault StoreCall) :=
  flowCall? now name arguments <|> sessionCall? now name arguments <|>
    traceCall? now name arguments

/-- Carries out a step; a step that names no operation of the store moves the clock or does
nothing. -/
def perform (step : Value) (world : World) : Except Fault Value × World :=
  let members := match step with
    | .obj members => members
    | _ => []
  let name := text "do" members
  let arguments := Arguments.members "args" members
  match call? world.now name arguments with
  | some (.ok request) =>
      let (answer, later) := world.answerStore request
      (answer.map (answerValue request), later)
  | some (.error fault) => (.error fault, world)
  | none =>
      if name = "advance" then
        match world.advanced? (value "seconds" arguments) with
        | some later => (.ok .null, later)
        | none => (.error .stampOutOfRange, world)
      else (.ok .null, world)

/-- Carries out steps in order. -/
def performAll : List Value → World → List (Except Fault Value)
  | [], _ => []
  | step :: rest, world =>
      let (outcome, later) := perform step world
      outcome :: performAll rest later

end ChatFlow.Ledger

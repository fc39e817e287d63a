import ChatFlow.Net.Host
import ChatFlow.Table
/-
The routes of the site: which endpoint a method and a path lead to.
-/

namespace ChatFlow.Web

/-- What the site can be asked for. -/
inductive Endpoint where
  | createFlow | listFlows | flowDetail | updateFlow | deleteFlow | toggleFlow
  | canvas | saveCanvas | duplicateFlow
  | versions | version | restoreVersion | availableFlows
  | startSession | cancelSession | logs | clearLogs | activeSession
  | message | messageHealth | health
  deriving DecidableEq, Repr

/-- A step of a path: a fixed word, or a place for any word under a name. -/
inductive Segment where
  | word (text : String)
  | hole (name : String)
  deriving DecidableEq, Repr

structure Route where
  method : String
  path : List Segment
  endpoint : Endpoint
  deriving DecidableEq, Repr

open Segment

/-- Every route; of two that fit, the first one counts. -/
def routes : List Route :=
  [⟨"POST", [word "flow", word "create"], .createFlow⟩,
    ⟨"GET", [word "flow", word "list"], .listFlows⟩,
    ⟨"GET", [word "flow", word "detail", hole "flow_id"], .flowDetail⟩,
    ⟨"PUT", [word "flow", word "update", hole "flow_id"], .updateFlow⟩,
    ⟨"DELETE", [word "flow", word "delete", hole "flow_id"], .deleteFlow⟩,
    ⟨"POST", [word "flow", word "toggle", hole "flow_id"], .toggleFlow⟩,
    ⟨"GET", [word "flow", word "canvas", hole "flow_id"], .canvas⟩,
    ⟨"PUT", [word "flow", word "canvas", hole "flow_id"], .saveCanvas⟩,
    ⟨"POST", [word "flow", word "duplicate", hole "flow_id"], .duplicateFlow⟩,
    ⟨"GET", [word "flow", word "versions", hole "flow_id"], .versions⟩,
    ⟨"GET", [word "flow", word "versions", hole "flow_id", hole "version"], .version⟩,
    ⟨"POST", [word "flow", word "versions", hole "flow_id", hole "version", word "restore"],
      .restoreVersion⟩,
    ⟨"GET", [word "flow", word "available", hole "connection_id"], .availableFlows⟩,
    ⟨"POST", [word "session", word "start"], .startSession⟩,
    ⟨"POST", [word "session", word "cancel", hole "conversation_id"], .cancelSession⟩,
    ⟨"GET", [word "session", word "logs", hole "conversation_id"], .logs⟩,
    ⟨"DELETE", [word "session", word "logs", hole "conversation_id"], .clearLogs⟩,
    ⟨"GET", [word "session", hole "conversation_id"], .activeSession⟩,
    ⟨"POST", [word "webhook", word "message"], .message⟩,
    ⟨"GET", [word "webhook", word "health"], .messageHealth⟩,
    ⟨"GET", [word "health"], .health⟩]

/-- The words in the places of a route's path, if a path fits it; no place takes an empty word. -/
def matchSteps? : List Segment → List String → Option (Table String)
  | [], [] => some []
  | .word text :: segments, step :: steps =>
      if text = step then matchSteps? segments steps else none
  | .hole name :: segments, step :: steps =>
      if step.isEmpty then none else (matchSteps? segments steps).map ((name, step) :: ·)
  | _, _ => none

/-- The steps of a path, which starts with a slash. -/
def steps? (path : String) : Option (List String) :=
  match Text.splitWhere (· == '/') path.toList with
  | [] :: steps => some (steps.map String.ofList)
  | _ => none

def Route.arguments? (path : String) (route : Route) : Option (Table String) :=
  (steps? path).bind (matchSteps? route.path)

/-- Where a request leads. -/
inductive Destination where
  | endpoint (endpoint : Endpoint) (arguments : Table String)
  | otherMethod
  | extraSlash
  | nowhere
  deriving DecidableEq, Repr

def withoutEndSlash (path : String) : String :=
  String.ofList (Text.trimEndBy (· == '/') path.toList)

/-- Where a method and a path lead. A path that fits with another method only is told apart from one
that would fit without slashes at its end. -/
def destination (method path : String) : Destination :=
  let fitting := routes.filterMap fun route =>
    (route.arguments? path).map fun arguments => (route, arguments)
  match fitting.find? fun entry => entry.1.method = method with
  | some (route, arguments) => .endpoint route.endpoint arguments
  | none =>
      if !fitting.isEmpty then .otherMethod
      else if path ≠ "/" && path.toList.getLast? == some '/' &&
          routes.any fun route => (route.arguments? (withoutEndSlash path)).isSome then .extraSlash
      else .nowhere

end ChatFlow.Web

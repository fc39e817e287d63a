import ChatFlow.Configuration
import ChatFlow.Engine.Reception
import ChatFlow.Flow.Management
import ChatFlow.Web.Message
import ChatFlow.Web.Route
/-
What the endpoints of the site do. The organization that asks is named in the headers; the messaging
service alone names it in the message.
-/

namespace ChatFlow.Web

/-- Settings of a site. -/
structure SiteSettings where
  engine : EngineSettings
  logLimit : Int
  pollSeconds : Int

def SiteSettings.ofConfiguration (configuration : Configuration) : Except Fault SiteSettings := do
  return {
    logLimit := ← configuration.getInteger "EXECUTION_LOG_LIMIT"
    pollSeconds := ← configuration.getInteger "DELAY_CHECK_INTERVAL_SECONDS"
    engine := ⟨Services.all, ← configuration.getInteger "MAX_FLOW_STEPS"⟩ }

namespace Endpoint

/-! ### Parts of answers -/

def success (members : Table Value) : Response :=
  .ok (.obj (("status", .str "success") :: members))

def healthy (members : Table Value) : Response :=
  .ok (.obj (("status", .str "healthy") :: members))

/-- The answer to an event; a conflict has a status of its own. -/
def ofReport (report : EventReport) : Response :=
  .ofValue (if report.status = .conflict then 409 else 200) report.toValue

/-- The answer to a forwarded message; a conflict has a status of its own. -/
def ofReceipt (receipt : Receipt) : Response :=
  .ofValue (if receipt.status = wordOf EventStatus.conflict then 409 else 200) receipt.toValue

def answering (program : Engine Response) : Engine Response :=
  program.recover fun fault => some (.done (.ofFault fault))

/-- Asks on behalf of the organization that the headers name. -/
def forOrganization (request : Request) (program : String → Engine Response) : Engine Response :=
  match request.organization? with
  | none => return .unauthorized
  | some organization => answering (program organization)

/-! ### Flows -/

def flowResponse (program : Engine Flow) : Engine Response := do
  return .ok (← program).toValue

def reading? (endpoint : Endpoint) (arguments : Table String) (organization : String) :
    Option (Engine Response) :=
  let flow := (Table.lookup? "flow_id" arguments).getD ""
  match endpoint with
  | .listFlows => some do
      let flows ← Management.list organization
      return .ok (← Program.ofExcept (Management.summaries flows))
  | .flowDetail => some (flowResponse (Management.owned organization flow))
  | .canvas => some do
      return .ok (← Management.canvas organization flow)
  | .versions => some do
      let versions ← Management.versions organization flow
      return .ok (.arr (versions.map FlowVersion.toValue))
  | .availableFlows => some do
      let flows ← Management.available organization (Table.lookup? "connection_id" arguments)
      return .ok (← Program.ofExcept (Management.summaries flows))
  | _ => none

/-- Endpoints that change flows and take nothing but what the path says. -/
def changing? (endpoint : Endpoint) (request : Request) (arguments : Table String)
    (organization : String) : Option (Engine Response) :=
  let flow := (Table.lookup? "flow_id" arguments).getD ""
  match endpoint with
  | .deleteFlow => some do
      Management.delete true organization flow
      return success [("flow_id", .str flow)]
  | .toggleFlow => some (flowResponse (Management.toggle true organization flow))
  | .duplicateFlow => some (flowResponse (Management.duplicate organization flow request.user?))
  | _ => none

/-- Endpoints that take a number of a version, or data about a flow. -/
def taking? (endpoint : Endpoint) (request : Request) (arguments : Table String) :
    Option (Except Response (String → Engine Response)) :=
  let flow := (Table.lookup? "flow_id" arguments).getD ""
  match endpoint with
  | .createFlow => some do
      let asked ← request.record NewFlow.ofMembers
      return fun organization => flowResponse (Management.create organization request.user? asked)
  | .updateFlow => some do
      let asked ← request.record FlowUpdate.ofMembers
      return fun organization => flowResponse (Management.update true organization flow asked)
  | .saveCanvas => some do
      let asked ← request.record CanvasRequest.ofMembers
      return fun organization => do
        let saved ← Management.saveCanvas organization flow (asked.nodes.map .obj)
          (asked.edges.map .obj) request.user?
        return success [("flow_id", .str flow), ("version", .int saved.version)]
  | .version => some do
      let number ← Request.pathInteger "version" arguments
      return fun organization => do
        let found ← Management.version organization flow number
        return .ok found.toValue
  | .restoreVersion => some do
      let number ← Request.pathInteger "version" arguments
      return fun organization => do
        let saved ← Management.restore organization flow number request.user?
        return success [("flow_id", .str flow), ("restored_version", .int number),
          ("version", .int saved.version)]
  | _ => none

/-! ### Sessions -/

def session? (settings : SiteSettings) (endpoint : Endpoint) (request : Request)
    (arguments : Table String) : Option (Except Response (String → Engine Response)) :=
  let conversation := (Table.lookup? "conversation_id" arguments).getD ""
  match endpoint with
  | .startSession => some do
      let asked ← request.record StartRequest.ofMembers
      return fun organization => do
        return ofReport (← Event.start settings.engine organization asked request.user?)
  | .cancelSession => some (.ok fun organization => do
      let given := (Table.lookup? "reason" request.query).getD ""
      let reason := if given.isEmpty then "cancelled_by_user" else given
      return ofReport (← Event.cancel organization conversation reason))
  | .logs => some do
      let asked ← request.queryInteger? "limit"
      return fun organization => do
        let limit := match asked with
          | none | some 0 => settings.logLimit
          | some limit => limit
        let rows ← Engine.store (.getLogs organization (some conversation) limit)
        return .ok (.arr (rows.map LogEntry.toValue))
  | .clearLogs => some (.ok fun organization => do
      let count : Nat ← Engine.store (.deleteLogs organization (some conversation))
      return success [("deleted", .int count)])
  | .activeSession => some (.ok fun organization => do
      return .ok (← Event.activeSession organization conversation).toValue)
  | _ => none

/-! ### Messages -/

/-- Handles a forwarded message. A fault that is none of the engine's own is told in the answer, so
that the messaging service goes on delivering. -/
def messageResponse (settings : SiteSettings) (message : InboundMessage) : Engine Response :=
  answering ((do return ofReceipt (← receive settings.engine message)) |>.recover fun fault =>
    if fault.isEngineFault then none
    else some (.done (ofReceipt (Receipt.ofFault fault.message))))

/-- Endpoints that ask for no organization in the headers. -/
def open? (settings : SiteSettings) (endpoint : Endpoint) (request : Request) :
    Option (Except Response (Engine Response)) :=
  match endpoint with
  | .message => some do
      let message ← request.record InboundMessage.ofMembers
      return messageResponse settings message
  | .messageHealth => some (.ok (return healthy [("api", .str "webhook_message_api"),
      ("service", .str "flow_automation_engine")]))
  | .health => some (.ok (return healthy [("service", .str "flow_automation_engine")]))
  | _ => none

/-- What an endpoint does with a request; data that is not what it takes is refused first. -/
def handle (settings : SiteSettings) (endpoint : Endpoint) (request : Request)
    (arguments : Table String) : Except Response (Engine Response) :=
  match open? settings endpoint request with
  | some program => program
  | none =>
      match taking? endpoint request arguments <|> session? settings endpoint request arguments with
      | some prepared => prepared.map (forOrganization request)
      | none => .ok (forOrganization request fun organization =>
          (reading? endpoint arguments organization <|>
            changing? endpoint request arguments organization).getD (return .moved))

end Endpoint

/-- What the site does with a request. -/
def respond (settings : SiteSettings) (request : Request) : Engine Response :=
  match destination request.method request.path with
  | .endpoint endpoint arguments =>
      match endpoint.handle settings request arguments with
      | .ok program => program
      | .error refusal => return refusal
  | .otherMethod => return .siteRefusal 405 "Method Not Allowed"
  | .extraSlash => return .moved
  | .nowhere => return .siteRefusal 404 "Not Found"

end ChatFlow.Web

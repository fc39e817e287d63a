import ChatFlow.Engine.Event
import ChatFlow.Graph.Validity
/-
Managing flows: creating, changing and deleting them, and saving their graphs with a snapshot of the
graph before. A flow is found only for the organization that it belongs to. Failures that are none
of the engine's own are reported as a failure of the operation.
-/

namespace ChatFlow.Management

/-- Reports foreign failures as a failure of an operation. -/
def reporting {α : Type} (operation : FlowOperation) (program : Engine α) : Engine α := do
  match ← Program.outcome program with
  | .ok value => return value
  | .error fault =>
      if fault.isEngineFault then .fail fault else .fail (.operationFailed operation)

/-- A value, or the fault of its absence. -/
def orFail {α : Type} (fault : Fault) : Option α → Engine α
  | some value => return value
  | none => .fail fault

def owned (organization id : String) : Engine Flow := do
  orFail (.flowNotFound id) (← Engine.store (.getOwnedFlow organization id))

/-- Cancels the sessions of a flow where there is an engine that runs them. -/
def cancelSessions (hasEngine : Bool) (flow reason : String) : Engine Unit :=
  if hasEngine then discard (Event.cancelFlowSessions flow reason) else return ()

/-! ### Settings -/

def create (organization : String) (editor : Option String) (request : NewFlow) : Engine Flow :=
  reporting .create do
    let now ← Engine.now
    Engine.store (.createFlow (request.flow organization editor now))

/-- The flows of an organization, the latest edit first. -/
def list (organization : String) : Engine (List Flow) :=
  reporting .list (Engine.store (.flowsOf organization))

/-- The listing rows of some flows; a flow without an identifier has none. -/
def summaries (flows : List Flow) : Except Fault Value := do
  let rows ← flows.mapM fun flow =>
    match flow.summary? with
    | some row => .ok row
    | none => .error (.invalidData [⟨.notText, [.name "id"]⟩])
  return .arr rows

/-- Changes settings; a flow that stops being active loses its sessions. -/
def update (hasEngine : Bool) (organization id : String) (request : FlowUpdate) : Engine Flow :=
  reporting .update do
    let existing ← owned organization id
    if request.settings.isEmpty then return existing
    else
      let changed ← orFail (.flowNotFound id)
        (← Engine.store (.updateFlow organization id request.settings))
      if existing.isActive && !changed.isActive then
        cancelSessions hasEngine id "flow_disabled"
      return changed

/-- Makes a flow active or inactive, whichever it is not; an inactive one loses its sessions. -/
def toggle (hasEngine : Bool) (organization id : String) : Engine Flow :=
  reporting .toggle do
    let existing ← owned organization id
    let active := !existing.isActive
    let changed ← orFail (.flowNotFound id)
      (← Engine.store (.updateFlow organization id [("is_active", .bool active)]))
    if !active then cancelSessions hasEngine id "flow_disabled"
    return changed

/-- Deletes a flow, after its sessions have been cancelled. -/
def delete (hasEngine : Bool) (organization id : String) : Engine Unit :=
  reporting .delete do
    discard (owned organization id)
    cancelSessions hasEngine id "flow_deleted"
    if !(← Engine.store (.deleteFlow organization id)) then .fail (.flowNotFound id)

/-! ### Graphs -/

/-- The snapshot of a flow's graph under its version. -/
def snapshot (id : String) (flow : Flow) (editor : Option String) (now : Stamp) : FlowVersion where
  id := none
  flow := id
  version := flow.version
  nodes := flow.nodes.map Node.toMembers
  edges := flow.edges.map Edge.toMembers
  createdBy := editor
  createdAt := now

/-- Replaces the graph of a flow: the new graph is checked, the old one is kept as a snapshot, and
the replacement fails when another one came between. -/
def saveCanvas (organization id : String) (nodes edges : List Value) (editor : Option String) :
    Engine Flow :=
  reporting .saveCanvas do
    let flow ← owned organization id
    let graph ← Program.ofExcept (Graph.ofValues nodes edges)
    let now ← Engine.now
    discard (Engine.store (.saveVersion (snapshot id flow editor now)))
    orFail (.conflict (.flowVersion id flow.version))
      (← Engine.store (.replaceGraph id flow.version graph.nodeValues graph.edgeValues editor))

/-- The graph of a flow with its version. -/
def canvas (organization id : String) : Engine Value := do
  let flow ← owned organization id
  return .obj (("flow_id", .ofText? flow.id) :: ("version", .int flow.version) ::
    flow.graphMembers)

/-- Copies a flow into a new inactive draft. -/
def duplicate (organization id : String) (editor : Option String) : Engine Flow :=
  reporting .duplicate do
    let source ← owned organization id
    let now ← Engine.now
    Engine.store (.createFlow { source with
      id := none
      organization := organization
      name := source.name ++ " (copy)"
      triggerEnabled := false
      isActive := false
      isDraft := true
      version := 1
      lastEditedBy := editor
      createdAt := now
      updatedAt := now })

/-! ### Versions -/

def versions (organization id : String) : Engine (List FlowVersion) := do
  discard (owned organization id)
  Engine.store (.versionsOf id)

def version (organization id : String) (number : Int) : Engine FlowVersion := do
  discard (owned organization id)
  orFail (.versionNotFound id number) (← Engine.store (.getVersion id number))

/-- Saves the graph of a snapshot as a new graph. -/
def restore (organization id : String) (number : Int) (editor : Option String) : Engine Flow := do
  let kept ← version organization id number
  saveCanvas organization id (kept.nodes.map .obj) (kept.edges.map .obj) editor

/-- The flows that can be started on a connection: active, published, and running there. -/
def available (organization : String) (connection : Option String) : Engine (List Flow) := do
  let flows ← Engine.store (.flowsOf organization)
  return flows.filter fun flow =>
    flow.isActive && !flow.isDraft && flow.acceptsConnection connection

end ChatFlow.Management

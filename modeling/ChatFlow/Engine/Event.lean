import ChatFlow.Engine.Run
import ChatFlow.Flow.Request
import ChatFlow.Trigger
import ChatFlow.Value.Spoken
/-
The events of the engine: a message arrives, a flow is started by hand, a timer fires, or a session
is cancelled. An event that meets another writer is run once more from a fresh read, and reported as
a conflict when that meets one again.
-/

namespace ChatFlow.Event

/-- A session that has been running for this long, in microseconds, was left behind. -/
def staleAfter : Int := 300 * Stamp.microsPerSecond

/-! ### Conflicts -/

/-- Takes a conflict as `none`; other failures stay failures. -/
def unlessConflict {α : Type} (program : Engine α) : Engine (Option α) := do
  match ← Program.outcome program with
  | .ok value => return some value
  | .error fault => if fault.isConflict then return none else .fail fault

/-- The report of an event that met another writer twice. -/
def conflictReport : EventReport :=
  { EventReport.bare .conflict with endReason := some "concurrency_conflict" }

/-- Runs an event, and once more if it meets another writer. -/
def withRetry (attempt : Engine EventReport) : Engine EventReport := do
  match ← unlessConflict attempt with
  | some report => return report
  | none =>
      match ← unlessConflict attempt with
      | some report => return report
      | none => return conflictReport

/-! ### Starting and ending sessions -/

def contactVariables (name phone : Option String) : Variables :=
  let entry (key : String) (value : Option String) : Variables :=
    match value with
    | some value => if value.isEmpty then [] else [(key, value)]
    | none => []
  entry "nome" name ++ entry "telefone" phone

/-- Given values as variables: null is left out, other values are spoken. -/
def variablesOf (given : Table Value) : Variables :=
  given.filterMap fun entry =>
    if entry.2 = .null then none else some (entry.1, entry.2.spoken)

/-- Who starts a flow, and with what. -/
structure Opening where
  conversation : String
  connection : Option String
  startedBy : Option String
  bag : Variables
  inboundText : Option String
  deriving DecidableEq, Repr

/-- The session of a flow before it is stored; it needs the identifier of a flow. -/
def newSession (flow : Flow) (start : Opening) (now : Stamp) : Except Fault Session :=
  match flow.id with
  | none => .error (.invalidData [⟨.notText, [.name "flow_id"]⟩])
  | some id => .ok {
      id := none
      conversation := start.conversation
      organization := flow.organization
      connection := start.connection
      flow := id
      currentNode := Node.startId
      bag := start.bag
      status := .running
      isActive := true
      revision := 0
      endReason := none
      resumeAt := none
      startedBy := start.startedBy
      startedAt := now
      updatedAt := now
      endedAt := none }

def startSession (settings : EngineSettings) (flow : Flow) (start : Opening) :
    Engine EventReport := do
  let now ← Engine.now
  let session ← Program.ofExcept (newSession flow start now)
  let stored ← Engine.store (.createSession session)
  Run.run settings stored start.inboundText false (some flow)

/-- Ends a session outside of a run. -/
def endSession (session : Session) (status : SessionStatus) (reason : String) :
    Engine Session := do
  let now ← Engine.now
  let stored ← Engine.store (.updateSession (Run.ended session status reason now) session.revision)
  discard (Engine.store (.markSessionDelays stored.id))
  let row := { (TraceSubject.ofSession stored).row now .flowComplete with
    node := some stored.currentNode
    message := some (wordOf status ++ ": " ++ reason) }
  Engine.flush [row]
  return stored

/-! ### Messages -/

/-- Starts the flow that a message triggers, if there is one. -/
def startTriggered (settings : EngineSettings) (message : InboundMessage) :
    Engine EventReport := do
  match ← Trigger.flowFor message.organization message.connection message.text with
  | none => return EventReport.bare .noTrigger
  | some flow =>
      startSession settings flow
        { conversation := message.conversation
          connection := message.connection
          startedBy := none
          bag := contactVariables message.contactName message.contactPhone
          inboundText := message.text }

/-- Handles a message on a conversation with an active session. -/
def handleOnSession (settings : EngineSettings) (message : InboundMessage) (session : Session) :
    Engine EventReport := do
  let ignored := EventReport.ofSession .ignored session none
  if session.organization ≠ message.organization then return ignored
  else match session.status with
    | .running => do
        let now ← Engine.now
        match now.since? session.updatedAt with
        | none => .fail .mixedClocks
        | some age =>
            if age < staleAfter then return ignored
            else do
              discard (endSession session .failed "stale_session")
              startTriggered settings message
    | .awaitingInput => Run.run settings session message.text true none
    | _ => return ignored

/-- A message arrives: it resumes the session that waits for it, or starts the flow it triggers. -/
def inbound (settings : EngineSettings) (message : InboundMessage) : Engine EventReport :=
  withRetry do
    match ← Engine.store (.activeSession message.conversation) with
    | some session => handleOnSession settings message session
    | none => startTriggered settings message

/-! ### Manual starts -/

/-- A flow is started by hand; a session that is active on the conversation is replaced. -/
def start (settings : EngineSettings) (organization : String) (request : StartRequest)
    (startedBy : Option String) : Engine EventReport := do
  match ← Engine.store (.getOwnedFlow organization request.flow) with
  | none => .fail (.flowNotFound request.flow)
  | some flow =>
      if !flow.isActive then .fail (.flowNotActive request.flow)
      else
        let bag := Table.putAll
          (contactVariables request.contactName request.contactPhone) request.bag
        withRetry do
          match ← Engine.store (.activeSession request.conversation) with
          | some existing => discard (endSession existing .cancelled "replaced")
          | none => pure ()
          startSession settings flow
            { conversation := request.conversation
              connection := request.connection
              startedBy
              bag
              inboundText := none }

/-! ### Timers -/

/-- A timer job fires. Nothing happens unless its session is active, waits for a timer at that very
node, and is due. -/
def resume (settings : EngineSettings) (conversation session node : String) :
    Engine EventReport :=
  withRetry do
    match ← Engine.store (.getSession session) with
    | none => return unknownSession
    | some found => do
        let ignored (reason : String) := EventReport.ofSession .ignored found (some reason)
        if found.conversation ≠ conversation then return unknownSession
        else if !found.isActive || found.status ≠ .awaitingTimer then
          return ignored "session_not_waiting"
        else if found.currentNode ≠ node then return ignored "node_moved"
        else match found.resumeAt with
          | none => Run.run settings found none true none
          | some resumeAt => do
              match (← Engine.now).before? resumeAt with
              | none => .fail .mixedClocks
              | some true => return ignored "not_due"
              | some false => Run.run settings found none true none
where
  unknownSession : EventReport :=
    { EventReport.bare .ignored with
      session := some session
      endReason := some "session_not_found" }

/-! ### Cancellation -/

/-- The active session of a conversation, if it belongs to an organization. -/
def activeSession (organization conversation : String) : Engine Session := do
  match ← Engine.store (.activeSession conversation) with
  | none => .fail (.noActiveSession conversation)
  | some session =>
      if session.organization = organization then return session
      else .fail (.noActiveSession conversation)

def cancelReport (session : Session) (reason : String) : Engine EventReport := do
  let ended ← endSession session .cancelled reason
  return EventReport.ofSession .cancelled ended (some reason)

/-- The active session of a conversation is cancelled. -/
def cancel (organization conversation reason : String) : Engine EventReport :=
  withRetry do cancelReport (← activeSession organization conversation) reason

/-- Cancels a session that was active on a flow, if it still is. -/
def cancelOnFlow (flow reason : String) (candidate : Session) : Engine EventReport :=
  withRetry do
    let id := candidate.id.getD "None"
    match ← Engine.store (.getSession id) with
    | none => return { EventReport.bare .ignored with session := candidate.id }
    | some session =>
        if session.isActive && session.flow = flow then cancelReport session reason
        else return { EventReport.bare .ignored with session := candidate.id }

def cancelEach (flow reason : String) : List Session → Engine Nat
  | [] => return 0
  | candidate :: rest => do
      let report ← cancelOnFlow flow reason candidate
      let others ← cancelEach flow reason rest
      return if report.status = .cancelled then others + 1 else others

/-- Every active session of a flow is cancelled; gives the number of those cancelled. -/
def cancelFlowSessions (flow reason : String) : Engine Nat := do
  cancelEach flow reason (← Engine.store (.activeSessionsOf flow))

end ChatFlow.Event

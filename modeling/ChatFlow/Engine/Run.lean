import ChatFlow.Engine.Dispatch
import ChatFlow.Engine.Evaluation
import ChatFlow.Engine.Report
import ChatFlow.Engine.Trace
/-
Running a session: nodes are evaluated one after the other until the session waits, suspends or
ends. What was decided is stored first; effects go out afterwards, and the trace is written last.
-/

namespace ChatFlow

/-- What the engine is set up with. -/
structure EngineSettings where
  services : Services
  maxSteps : Int
  deriving DecidableEq, Repr

namespace Flow

/-- The node of an identifier; of several, the last one counts. -/
def node? (flow : Flow) (id : String) : Option Node :=
  flow.nodes.reverse.find? fun node => node.id = id

def edgesFrom (flow : Flow) (id : String) : List Edge :=
  flow.edges.filter fun edge => edge.source = id

end Flow

/-- How far a run has come. -/
structure Progress where
  node : String
  bag : Variables
  steps : Nat
  effects : List Effect
  trace : List LogEntry
  deriving DecidableEq, Repr

namespace Progress

def ofSession (session : Session) : Progress where
  node := session.currentNode
  bag := session.bag
  steps := 0
  effects := []
  trace := []

/-- Adds a row to the trace. -/
def log (row : LogEntry) (progress : Progress) : Progress :=
  { progress with trace := progress.trace ++ [row] }

end Progress

/-- The outcome of visiting a node: the run halts, or has moved on to the next node. -/
inductive Visit where
  | halted (decision : Decision) (progress : Progress)
  | moved (progress : Progress)
  deriving DecidableEq, Repr

namespace Run

/-- The context in which a node of a session is evaluated. -/
def contextOf (flow : Flow) (session : Session) (inboundText : Option String) (isResume : Bool)
    (now : Stamp) (progress : Progress) : NodeContext where
  organization := session.organization
  conversation := session.conversation
  session := session.id
  flow := session.flow
  bag := progress.bag
  edges := flow.edgesFrom progress.node
  inboundText := inboundText
  isResume := isResume
  now := now

/-- What follows from the result of a node: the run halts there, or moves along the edge chosen. -/
def follow (flow : Flow) (subject : TraceSubject) (now : Stamp) (result : NodeResult)
    (progress : Progress) : Visit :=
  let collected :=
    { progress with bag := result.bag, effects := progress.effects ++ result.effects }
  match result.next with
  | .advance target handle =>
      if (flow.node? target).isSome then
        let transition := { subject.row now .transition with
          fromNode := some progress.node
          toNode := some target
          handle := handle
          step := some progress.steps }
        .moved { (collected.log transition) with node := target, steps := progress.steps + 1 }
      else
        let lost := { subject.row now .error with
          node := some progress.node
          step := some progress.steps
          message := some ("Edge target " ++ target ++ " not found in flow") }
        .halted (.terminate .failed "node_not_found") (collected.log lost)
  | decision => .halted decision collected

/-- Evaluates the node that a run has come to. -/
def visit (settings : EngineSettings) (flow : Flow) (session : Session)
    (inboundText : Option String) (isResume : Bool) (progress : Progress) : Engine Visit := do
  let subject := TraceSubject.ofSession session
  let now ← Engine.now
  match flow.node? progress.node with
  | none =>
      let lost := { subject.row now .error with
        node := some progress.node
        step := some progress.steps
        message := some ("Node " ++ progress.node ++ " not found in flow") }
      return .halted (.terminate .failed "node_not_found") (progress.log lost)
  | some node =>
      let nodeType := some (wordOf node.kind)
      let started := { subject.row now .nodeStart with
        node := some node.id
        nodeType := nodeType
        step := some progress.steps }
      let progress := progress.log started
      let context := contextOf flow session inboundText isResume now progress
      match ← Program.outcome (Evaluation.evaluate settings.services node context) with
      | .ok result => return follow flow subject now result progress
      | .error fault =>
          let failed := { subject.row now .error with
            node := some node.id
            nodeType := nodeType
            step := some progress.steps
            message := some fault.message }
          return .halted (.terminate .failed "node_error") (progress.log failed)

/-- The end of a run that has made too many steps. -/
def exhausted (settings : EngineSettings) (session : Session) (now : Stamp) (progress : Progress) :
    Decision × Progress :=
  let row := { (TraceSubject.ofSession session).row now .error with
    node := some progress.node
    step := some progress.steps
    message := some ("Session " ++ session.id.getD "None" ++ " exceeded " ++
      String.ofList (Json.intText settings.maxSteps) ++ " steps in one event") }
  (.terminate .failed "flow_loop_detected", progress.log row)

/-- Visits nodes until the run halts, moving at most a number of times and once more. -/
def walk (settings : EngineSettings) (flow : Flow) (session : Session)
    (inboundText : Option String) :
    (moves : Nat) → (isResume : Bool) → Progress → Engine (Decision × Progress)
  | 0, isResume, progress => do
      match ← visit settings flow session inboundText isResume progress with
      | .halted decision progress => return (decision, progress)
      | .moved progress => return exhausted settings session (← Engine.now) progress
  | moves + 1, isResume, progress => do
      match ← visit settings flow session inboundText isResume progress with
      | .halted decision progress => return (decision, progress)
      | .moved progress => walk settings flow session inboundText moves false progress

/-- Runs through the graph of a flow, or ends at once where the flow is gone. -/
def decide (settings : EngineSettings) (flow : Option Flow) (session : Session)
    (inboundText : Option String) (isResume : Bool) : Engine (Decision × Progress) :=
  match flow with
  | some flow =>
      walk settings flow session inboundText settings.maxSteps.toNat isResume
        (Progress.ofSession session)
  | none => do
      let now ← Engine.now
      let row := { (TraceSubject.ofSession session).row now .error with
        node := some session.currentNode
        message := some ("Flow " ++ session.flow ++ " no longer exists") }
      return (.terminate .failed "flow_not_found", (Progress.ofSession session).log row)

/-! ### Storing what was decided -/

/-- What was stored: the report, and the last row of the trace. -/
structure Commit where
  report : EventReport
  row : LogEntry
  deriving DecidableEq, Repr

def placed (session : Session) (progress : Progress) : Session :=
  { session with currentNode := progress.node, bag := progress.bag }

/-- The report and the last row for a stored session. -/
def committed (progress : Progress) (stored : Session) (subject : TraceSubject) (now : Stamp)
    (status : EventStatus) (kind : LogKind) (message : String) (reason : Option String) :
    Commit where
  report := { EventReport.ofSession status stored reason with
    steps := progress.steps
    effects := progress.effects }
  row := { subject.row now kind with
    node := some progress.node
    message := some message
    bag := some progress.bag }

/-- The timer job of a session that suspends; it needs the identifier of a session. -/
def timerJob (session : Session) (node : String) (resumeAt now : Stamp) : Except Fault Delay :=
  match session.id with
  | none => .error (.invalidData [⟨.notText, [.name "session_id"]⟩])
  | some id => .ok {
      id := none
      conversation := session.conversation
      session := id
      flow := session.flow
      node := node
      resumeAt := resumeAt
      processed := false
      processedAt := none
      createdAt := now }

/-- The session as it is stored when it ends. -/
def ended (session : Session) (status : SessionStatus) (reason : String) (now : Stamp) : Session :=
  { session with
    isActive := false
    status := status
    endReason := some reason
    endedAt := some now
    resumeAt := none }

/-- Stores a decision. The timer job is stored before the session that waits for it. -/
def commit (session : Session) (decision : Decision) (progress : Progress) : Engine Commit := do
  let subject := TraceSubject.ofSession session
  let now ← Engine.now
  let session := placed session progress
  match decision with
  | .awaitInput kind =>
      let stored ← Engine.store (.updateSession
        { session with status := .awaitingInput, resumeAt := none } session.revision)
      return committed progress stored subject now .waitingInput .waitingInput (wordOf kind) none
  | .suspend resumeAt =>
      let job ← Program.ofExcept (timerJob session progress.node resumeAt now)
      discard (Engine.store (.saveDelay job))
      let stored ← Engine.store (.updateSession
        { session with status := .awaitingTimer, resumeAt := some resumeAt } session.revision)
      return committed progress stored subject now .waitingTimer .waitingTimer
        resumeAt.numericText none
  | .terminate outcome reason =>
      finish session outcome reason subject now
  | .advance _ _ => finish session .failed "" subject now
where
  /-- Stores the end of a session and marks its timer jobs. -/
  finish (session : Session) (outcome : Outcome) (reason : String) (subject : TraceSubject)
      (now : Stamp) : Engine Commit := do
    let stored ← Engine.store (.updateSession
      (ended session outcome.sessionStatus reason now) session.revision)
    discard (Engine.store (.markSessionDelays stored.id))
    return committed progress stored subject now outcome.eventStatus .flowComplete
      (wordOf outcome.sessionStatus ++ ": " ++ reason) (some reason)

/-- Runs a session from its current node. -/
def run (settings : EngineSettings) (session : Session) (inboundText : Option String)
    (isResume : Bool) (flow : Option Flow) : Engine EventReport := do
  let flow ← match flow with
    | some flow => pure (some flow)
    | none => Engine.store (.getFlow session.flow)
  let (decision, progress) ← decide settings flow session inboundText isResume
  match ← Program.outcome (commit session decision progress) with
  | .error fault => do
      Engine.flush progress.trace
      .fail fault
  | .ok stored => do
      Effect.dispatchAll session.organization session.conversation progress.effects
      Engine.flush (progress.trace ++ [stored.row])
      return stored.report

end Run

end ChatFlow

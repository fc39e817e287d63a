import ChatFlow.Schema.Issue
/-
Everything that can go wrong, as causes. The wording and the status code of a fault are functions of
its cause.
-/

namespace ChatFlow

/-- Why a list of nodes and edges is no flow. -/
inductive GraphProblem where
  | duplicateNode (node : String)
  | startNode
  | duplicateEdge (edge : String)
  | unknownSource (edge node : String)
  | unknownTarget (edge node : String)
  | targetsStart (edge : String)
  deriving DecidableEq, Repr

def GraphProblem.message : GraphProblem → String
  | .duplicateNode node => "Duplicate node id '" ++ node ++ "'"
  | .startNode => "Flow must contain exactly one start node with id 'start'"
  | .duplicateEdge edge => "Duplicate edge id '" ++ edge ++ "'"
  | .unknownSource edge node =>
      "Edge '" ++ edge ++ "' references unknown source node '" ++ node ++ "'"
  | .unknownTarget edge node =>
      "Edge '" ++ edge ++ "' references unknown target node '" ++ node ++ "'"
  | .targetsStart edge => "Edge '" ++ edge ++ "' cannot target the start node"

/-- Which two writers met. -/
inductive Conflict where
  | activeSession (conversation : String)
  | sessionRevision (session : String) (expected : Int)
  | unknownSession (session : String)
  | flowVersion (flow : String) (expected : Int)
  | other (message : String)
  deriving DecidableEq, Repr

def Conflict.message : Conflict → String
  | .activeSession conversation =>
      "Conversation " ++ conversation ++ " already has an active flow session"
  | .sessionRevision session expected =>
      "Session " ++ session ++ " was modified concurrently (expected revision " ++
        toString expected ++ ")"
  | .unknownSession session => "Session " ++ session ++ " does not exist"
  | .flowVersion flow expected =>
      "Flow " ++ flow ++ " was saved concurrently (expected version " ++ toString expected ++ ")"
  | .other message => message

/-- The operations on flows that report any other failure under their own name. -/
inductive FlowOperation where
  | create | list | update | toggle | delete | saveCanvas | duplicate
  deriving DecidableEq, Repr

def FlowOperation.failure : FlowOperation → String
  | .create => "Error creating flow:"
  | .list => "Error getting flows list:"
  | .update => "Error updating flow:"
  | .toggle => "Error toggling flow:"
  | .delete => "Error deleting flow:"
  | .saveCanvas => "Error saving canvas:"
  | .duplicate => "Error duplicating flow:"

/-- A call to a service outside that failed. -/
structure ExternalFailure where
  message : String
  isTimeout : Bool
  statusCode : Int
  deriving DecidableEq, Repr

/-- The cause of a failure. The first eleven are faults of the flow engine; the others are faults of
data or of the surroundings that reach the caller as they are. -/
inductive Fault where
  | flowNotFound (flow : String)
  | versionNotFound (flow : String) (version : Int)
  | noActiveSession (conversation : String)
  | flowNotActive (flow : String)
  | invalidGraph (issues : List Issue)
  | graphProblem (problem : GraphProblem)
  | conflict (cause : Conflict)
  | operationFailed (operation : FlowOperation)
  | database (message : String) (statusCode : Int)
  | external (failure : ExternalFailure)
  | runtime (message : String)
  | invalidData (issues : List Issue)
  | unreadableNumeral
  | unknownVariable (name : String)
  | unknownBackend (name : String)
  | repetitionTooLarge
  | stampOutOfRange
  | mixedClocks
  | nullRecord
  | notARecord
  | unknownName
  | malformedJson
  | missingMember (name : String)
  | unorderedNames
  | unprintable
  | wrongKind
  | numberTooLarge
  | invalidAddress
  | unencodable
  | undecodable
  | duplicateKey (message : String)
  | connectionLost (message : String)
  | collectionFailed (message : String)
  | timedOut (message : String)
  | transportFailed (message : String)
  deriving DecidableEq, Repr

namespace Fault

def isEngineFault : Fault → Bool
  | .flowNotFound _ | .versionNotFound .. | .noActiveSession _ | .flowNotActive _
  | .invalidGraph _ | .graphProblem _ | .conflict _ | .operationFailed _ | .database ..
  | .external _ => true
  | _ => false

/-- Whether a fault says that two writers met. -/
def isConflict : Fault → Bool
  | .conflict _ => true
  | _ => false

def message : Fault → String
  | .flowNotFound flow => "Flow " ++ flow ++ " not found"
  | .versionNotFound flow version =>
      "Version " ++ toString version ++ " of flow " ++ flow ++ " not found"
  | .noActiveSession conversation => "No active flow session for conversation " ++ conversation
  | .flowNotActive flow => "Flow " ++ flow ++ " is not active"
  | .invalidGraph _ => "Invalid flow graph:"
  | .graphProblem problem => problem.message
  | .conflict cause => cause.message
  | .operationFailed operation => operation.failure
  | .database message _ => message
  | .external failure => failure.message
  | .runtime message => message
  | .unknownVariable name => "Environment variable " ++ name ++ " not found"
  | .unknownBackend name =>
      "Unknown FLOW_DB_BACKEND '" ++ name ++ "', expected 'mongo' or 'memory'"
  | .missingMember name => "'" ++ name ++ "'"
  | .duplicateKey message | .connectionLost message | .collectionFailed message => message
  | .timedOut message | .transportFailed message => message
  | .invalidData _ => "the data is not what is asked for"
  | .unreadableNumeral => "the text is no number that can be read"
  | .repetitionTooLarge => "the repetition number is too large"
  | .stampOutOfRange => "date value out of range"
  | .mixedClocks => "times with and without a zone cannot be compared"
  | .nullRecord => "nothing stands where an object is asked for"
  | .notARecord => "the value is no object"
  | .unknownName => "the name is unknown"
  | .malformedJson => "the text is not JSON"
  | .unorderedNames => "rows without an identifier have no order"
  | .unprintable => "the number is too long to be written"
  | .wrongKind => "the value is of the wrong kind"
  | .numberTooLarge => "the number is too large"
  | .invalidAddress => "the address cannot be read"
  | .unencodable => "the text cannot be encoded"
  | .undecodable => "the bytes cannot be decoded"

/-- The status code under which a fault is reported to a client. -/
def statusCode : Fault → Int
  | .flowNotFound _ | .versionNotFound .. | .noActiveSession _ => 404
  | .flowNotActive _ | .invalidGraph _ | .graphProblem _ => 400
  | .conflict _ => 409
  | .database _ statusCode => statusCode
  | .external failure => failure.statusCode
  | _ => 500

end Fault

end ChatFlow

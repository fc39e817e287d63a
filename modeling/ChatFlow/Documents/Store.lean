import ChatFlow.Documents.Call
import ChatFlow.Documents.Row
import ChatFlow.Engine.Call
/-
A flow store on a document database: each operation of the store as a program over collections.
Faults of the collections leave an operation only as faults of the engine.
-/

namespace ChatFlow.Documents

/-! ### Faults -/

/-- The fault of the engine that stands for a fault in the middle of an operation. -/
def reported (fault : Fault) : Fault :=
  if fault.isEngineFault then fault
  else
    match fault with
    | .connectionLost message => .database ("Database connection error: " ++ message) 503
    | .invalidData _ => .database "Database error:" 500
    | fault => .database ("Database error: " ++ fault.message) 500

/-- A program whose faults are faults of the engine. -/
def guarded {α : Type} (program : Documents α) : Documents α :=
  program.recover fun fault => some (.fail (reported fault))

/-- Goes on otherwise where a document with the same key is stored already. -/
def orDuplicate {α : Type} (otherwise program : Documents α) : Documents α :=
  program.recover fun fault =>
    match fault with
    | .duplicateKey _ => some otherwise
    | _ => none

/-! ### Rows -/

/-- The row that was found, if any was. -/
def readOne {α : Type} (ofMembers : Table Value → Checked α) :
    Option Value → Documents (Option α)
  | none => return none
  | some document => some <$> Program.ofExcept (readRow ofMembers document)

/-- The rows that were found, in order. -/
def readAll {α : Type} (ofMembers : Table Value → Checked α) (found : Found) :
    Documents (List α) := do
  let rows ← Program.ofExcept (found.documents.mapM (readRow ofMembers))
  match found.fault with
  | none => return rows
  | some fault => .fail fault

/-- Goes on with the identifier that a text names; a text that names none has an answer of its
own. -/
def withId {α : Type} (text : String) (absent : α) (next : Value → Documents α) : Documents α :=
  match objectId? text with
  | some id => next id
  | none => return absent

/-- Stores the document of a new row, and reads back what is then stored. -/
def insertRow {α : Type} (ofMembers : Table Value → Checked α) (collection : Collection)
    (document : Table Value) : Documents α := do
  let id ← ask (.insert collection document)
  Program.ofExcept (readRow ofMembers (stored id document))

/-! ### Queries -/

def hasId (id : Value) : Clause := .equals idField id

def isText (field value : String) : Clause := .equals field (.str value)

def isFlag (field : String) (value : Bool) : Clause := .equals field (.bool value)

/-- The order of flow listings: the latest edit first, then by identifier. -/
def latestEdit : List SortKey := [descending "updated_at", ascending idField]

/-- The documents of the flows that a message to an organization may start. -/
def candidateQuery (organization : String) : Query :=
  [isText "organization_id" organization, isFlag "is_active" true, isFlag "is_draft" false,
    isFlag "trigger_enabled" true]

/-- The documents of the log rows of an organization, or of one of its conversations; an empty name
of a conversation counts as none. -/
def logQuery (organization : String) (conversation : Option String) : Query :=
  isText "organization_id" organization ::
    match conversation with
    | none => []
    | some conversation =>
        if conversation.isEmpty then [] else [isText "conversation_id" conversation]

/-- The order of log listings: the latest row first. -/
def latestEntry : List SortKey := [descending "created_at", descending idField]

/-- The fields set where timer jobs are done with. -/
def processedAt (now : Stamp) : Table Value :=
  [("processed", .bool true), ("processed_at", .stamp now)]

/-! ### Operations -/

/-- The first row that a query means. -/
def lookUp {α : Type} (ofMembers : Table Value → Checked α) (collection : Collection)
    (query : Query) : Documents (Option α) := guarded do
  let found ← ask (.findOne collection query)
  readOne ofMembers found

/-- The rows that a query means, in order. -/
def listAll {α : Type} (ofMembers : Table Value → Checked α) (collection : Collection)
    (query : Query) (order : List SortKey) (limit : Option Int) : Documents (List α) := guarded do
  let found ← ask (.find collection query order limit)
  readAll ofMembers found

/-- Sets fields of the first row that a query means, and reads back what is then stored. -/
def setFields {α : Type} (ofMembers : Table Value → Checked α) (collection : Collection)
    (query : Query) (changes : Table Value) : Documents (Option α) := do
  let found ← ask (.findAndSet collection query changes)
  readOne ofMembers found

/-- Removes a flow of an organization, and its versions. -/
def removeFlow (organization flow : String) (id : Value) : Documents Bool := guarded do
  let count : Nat ← ask (.removeOne .flows [hasId id, isText "organization_id" organization])
  if count = 0 then return false
  else
    let _ : Nat ← ask (.removeAll .versions [isText "flow_id" flow])
    return true

/-- Replaces the graph of a flow if its version is the expected one. -/
def replaceGraph (now : Stamp) (expected : Int) (nodes edges : List Value)
    (editor : Option String) (id : Value) : Documents (Option Flow) :=
  guarded (setFields (Flow.ofMembers now) .flows [hasId id, .equals "version" (.int expected)]
    [("nodes", .arr nodes), ("edges", .arr edges), ("version", .int (expected + 1)),
      ("is_draft", .bool false), ("last_edited_by", .ofText? editor),
      ("updated_at", .stamp now)])

/-- Stores a snapshot unless there is one of that flow and version. -/
def saveVersion (version : FlowVersion) : Documents Bool :=
  guarded (orDuplicate (return false) do
    let _ : Value ← ask (.insert .versions version.documentMembers)
    return true)

/-- Stores a new session; the database refuses a second active one of a conversation. -/
def createSession (now : Stamp) (session : Session) : Documents Session :=
  guarded (orDuplicate (.fail (.conflict (.activeSession session.conversation)))
    (insertRow (Session.ofMembers now) .sessions session.documentMembers))

/-- The fields of a session that is written anew, its revision counted up. -/
def revised (now : Stamp) (session : Session) (expected : Int) : Table Value :=
  Table.put "updated_at" (.stamp now)
    (Table.put "revision" (.int (expected + 1)) session.documentMembers)

/-- Writes a session under an identifier if its stored revision is the expected one, and counts the
revision up. -/
def writeSession (now : Stamp) (session : Session) (expected : Int) (id : Value) :
    Documents Session :=
  guarded (orDuplicate (.fail (.conflict (.activeSession session.conversation))) do
    let query := [hasId id, .equals "revision" (.int expected)]
    match ← setFields (Session.ofMembers now) .sessions query (revised now session expected) with
    | some written => return written
    | none => .fail (.conflict (.sessionRevision (session.id.getD "None") expected)))

/-- Stands for an identifier that is made up for one call; it is that of no document. -/
def madeUpId : Value := .objectId ""

/-- Writes a session under its identifier; where it has none, one is made up. -/
def updateSession (now : Stamp) (session : Session) (expected : Int) : Documents Session :=
  match session.id with
  | none => writeSession now session expected madeUpId
  | some name =>
      match objectId? name with
      | none => .fail (.conflict (.unknownSession name))
      | some id => writeSession now session expected id

def answer (now : Stamp) : (request : StoreCall) → Documents request.Answer
  | .createFlow flow => guarded (insertRow (Flow.ofMembers now) .flows (ofFlow flow))
  | .getFlow flow =>
      withId flow none fun id => lookUp (Flow.ofMembers now) .flows [hasId id]
  | .getOwnedFlow organization flow => withId flow none fun id =>
      lookUp (Flow.ofMembers now) .flows [hasId id, isText "organization_id" organization]
  | .flowsOf organization =>
      listAll (Flow.ofMembers now) .flows [isText "organization_id" organization] latestEdit none
  | .updateFlow organization flow settings => withId flow none fun id =>
      guarded (setFields (Flow.ofMembers now) .flows
        [hasId id, isText "organization_id" organization]
        (Table.put "updated_at" (.stamp now) settings))
  | .deleteFlow organization flow => withId flow false (removeFlow organization flow)
  | .replaceGraph flow expected nodes edges editor =>
      withId flow none (replaceGraph now expected nodes edges editor)
  | .triggerCandidates organization =>
      listAll (Flow.ofMembers now) .flows (candidateQuery organization) latestEdit none
  | .saveVersion version => saveVersion version
  | .versionsOf flow => listAll (FlowVersion.ofMembers now) .versions [isText "flow_id" flow]
      [descending "version"] none
  | .getVersion flow version => lookUp (FlowVersion.ofMembers now) .versions
      [isText "flow_id" flow, .equals "version" (.int version)]
  | .createSession session => createSession now session
  | .getSession session =>
      withId session none fun id => lookUp (Session.ofMembers now) .sessions [hasId id]
  | .activeSession conversation => lookUp (Session.ofMembers now) .sessions
      [isText "conversation_id" conversation, isFlag "is_active" true]
  | .updateSession session expected => updateSession now session expected
  | .activeSessionsOf flow => listAll (Session.ofMembers now) .sessions
      [isText "flow_id" flow, isFlag "is_active" true] [] none
  | .saveDelay delay => guarded (insertRow (Delay.ofMembers now) .delays delay.documentMembers)
  | .pendingDelays time => listAll (Delay.ofMembers now) .delays
      [isFlag "processed" false, .atMost "resume_at" (.stamp time)] [ascending "resume_at"] none
  | .markDelay delay => withId delay false fun id => guarded do
      let count : Nat ← ask (.setOne .delays [hasId id] (processedAt now))
      return count != 0
  | .markSessionDelays session => guarded
      (ask (.setAll .delays [.equals "session_id" (.ofText? session), isFlag "processed" false]
        (processedAt now)))
  | .saveLogs entries =>
      if entries.isEmpty then return ()
      else guarded (ask (.insertAll .logs (entries.map LogEntry.documentMembers)))
  | .getLogs organization conversation limit => listAll (LogEntry.ofMembers now) .logs
      (logQuery organization conversation) latestEntry (some limit)
  | .deleteLogs organization conversation => guarded
      (ask (.removeAll .logs (logQuery organization conversation)))

/-! ### Indexes -/

def lookupIndex (keys : List SortKey) : Index := ⟨keys, false, [], none⟩

/-- The indexes that the operations rely on: snapshots are unique by flow and version, and active
sessions by conversation. -/
def indexes : List (Collection × Index) :=
  [(.flows, lookupIndex [ascending "organization_id", descending "updated_at"]),
    (.versions, ⟨[ascending "flow_id", ascending "version"], true, [], none⟩),
    (.sessions, ⟨[ascending "conversation_id"], true, [("is_active", .bool true)],
      some "one_active_session_per_conversation"⟩),
    (.sessions, lookupIndex [ascending "flow_id", ascending "is_active"]),
    (.delays, lookupIndex [ascending "processed", ascending "resume_at"]),
    (.delays, lookupIndex [ascending "session_id"]),
    (.logs, lookupIndex [ascending "organization_id", ascending "conversation_id",
      descending "created_at"])]

def ensureIndexes : Documents Unit := guarded do
  for (collection, index) in indexes do
    ask (.createIndex collection index)

end ChatFlow.Documents

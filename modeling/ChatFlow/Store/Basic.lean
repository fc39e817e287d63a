import ChatFlow.Engine.Call
/-
A flow store held in memory. Rows stand in tables by their identifiers, in the order in which they
were created; the active session of a conversation is kept in an index beside the sessions.
-/

namespace ChatFlow

/-- How many rows of each kind have been created; identifiers are numbered from one. -/
structure RowCounts where
  flows : Nat
  versions : Nat
  sessions : Nat
  delays : Nat
  logs : Nat
  deriving DecidableEq, Repr

/-- The identifier of a row: its kind and its number in at least four digits. -/
def rowId (kind : String) (number : Nat) : String :=
  kind ++ "-" ++ String.ofList (Stamp.padded 4 number)

structure Store where
  flows : Table Flow
  versions : List ((String × Int) × FlowVersion)
  sessions : Table Session
  active : Table String
  delays : Table Delay
  logs : List LogEntry
  counts : RowCounts
  deriving DecidableEq, Repr

namespace Store

def empty : Store where
  flows := []
  versions := []
  sessions := []
  active := []
  delays := []
  logs := []
  counts := ⟨0, 0, 0, 0, 0⟩

/-! ### Order of rows -/

/-- Whether all of some stamps carry their distance from universal time, or none does. -/
def areComparable (stamps : List Stamp) : Bool :=
  stamps.all (fun stamp => stamp.offset.isSome) || stamps.all (fun stamp => stamp.offset.isNone)

/-- Whether one stamp is no later than another; stamps of different clocks count as equal. -/
def noLater (first second : Stamp) : Bool := (second.before? first) != some true

/-- Rows in the order of their stamps; rows of one stamp keep their order. -/
def sortByStamp {α : Type} (stampOf : α → Stamp) (rows : List α) : Except Fault (List α) :=
  if areComparable (rows.map stampOf) then
    .ok (rows.mergeSort fun left right => noLater (stampOf left) (stampOf right))
  else .error .mixedClocks

/-- Rows with the latest stamp first; rows of one stamp keep their order. -/
def sortLatestFirst {α : Type} (stampOf : α → Stamp) (rows : List α) : Except Fault (List α) :=
  if areComparable (rows.map stampOf) then
    .ok (rows.mergeSort fun left right => noLater (stampOf right) (stampOf left))
  else .error .mixedClocks

/-- Whether one identifier stands no later than another. -/
def noLaterId (first second : Option String) : Bool :=
  Issue.noLater (first.getD "").toList (second.getD "").toList

/-- Flows with the latest edit first; those of one edit time in the order of their identifiers. -/
def sortFlows (flows : List Flow) : Except Fault (List Flow) :=
  match flows with
  | [] => .ok []
  | [flow] => .ok [flow]
  | flows =>
      if flows.all fun flow => flow.id.isSome then
        sortLatestFirst Flow.updatedAt
          (flows.mergeSort fun left right => noLaterId left.id right.id)
      else .error .unorderedNames

/-! ### Flows -/

def createFlow (flow : Flow) (store : Store) : Flow × Store :=
  let number := store.counts.flows + 1
  let id := rowId "flow" number
  let stored := { flow with id := some id }
  (stored, { store with
    flows := Table.put id stored store.flows
    counts := { store.counts with flows := number } })

def getFlow (id : String) (store : Store) : Option Flow := Table.lookup? id store.flows

/-- A flow, if it belongs to an organization. -/
def getOwnedFlow (organization id : String) (store : Store) : Option Flow :=
  (store.getFlow id).filter fun flow => flow.organization = organization

def flowsOf (organization : String) (store : Store) : Except Fault (List Flow) :=
  sortFlows ((store.flows.map Prod.snd).filter fun flow => flow.organization = organization)

/-- The flows that a message to an organization may start. -/
def triggerCandidates (organization : String) (store : Store) : Except Fault (List Flow) :=
  sortFlows ((store.flows.map Prod.snd).filter fun flow =>
    flow.organization = organization && flow.isActive && !flow.isDraft && flow.triggerEnabled)

/-- Sets some fields of a flow and its edit time. -/
def setFields (id : String) (settings : Table Value) (now : Stamp) (flow : Flow) (store : Store) :
    Except Fault (Flow × Store) :=
  match flow.withSettings (Table.put "updated_at" (.stamp now) settings) with
  | .accepted changed =>
      .ok (changed, { store with flows := Table.put id changed store.flows })
  | .rejected issues => .error (.invalidData issues)

def updateFlow (organization id : String) (settings : Table Value) (now : Stamp) (store : Store) :
    Except Fault (Option Flow × Store) :=
  match store.getOwnedFlow organization id with
  | none => .ok (none, store)
  | some flow => (store.setFields id settings now flow).map fun (changed, later) =>
      (some changed, later)

/-- Removes a flow and its versions. -/
def deleteFlow (organization id : String) (store : Store) : Bool × Store :=
  match store.getOwnedFlow organization id with
  | none => (false, store)
  | some _ => (true, { store with
      flows := Table.remove id store.flows
      versions := store.versions.filter fun entry => entry.1.1 != id })

/-- Replaces the graph of a flow if its version is the expected one, and counts the version up. -/
def replaceGraph (id : String) (expected : Int) (nodes edges : List Value) (editor : Option String)
    (now : Stamp) (store : Store) : Except Fault (Option Flow × Store) :=
  match (store.getFlow id).filter fun flow => flow.version = expected with
  | none => .ok (none, store)
  | some flow =>
      let settings := [("nodes", .arr nodes), ("edges", .arr edges),
        ("version", .int (expected + 1)), ("is_draft", .bool false),
        ("last_edited_by", .ofText? editor)]
      (store.setFields id settings now flow).map fun (changed, later) => (some changed, later)

/-! ### Versions -/

/-- Stores a snapshot unless there is one of that flow and version. -/
def saveVersion (version : FlowVersion) (store : Store) : Bool × Store :=
  let key := (version.flow, version.version)
  if store.versions.any fun entry => entry.1 = key then (false, store)
  else
    let number := store.counts.versions + 1
    let stored := { version with id := some (rowId "version" number) }
    (true, { store with
      versions := store.versions ++ [(key, stored)]
      counts := { store.counts with versions := number } })

/-- The snapshots of a flow, the highest version first. -/
def versionsOf (flow : String) (store : Store) : List FlowVersion :=
  ((store.versions.filter fun entry => entry.1.1 = flow).map Prod.snd).mergeSort
    fun left right => right.version ≤ left.version

def getVersion (flow : String) (version : Int) (store : Store) : Option FlowVersion :=
  (store.versions.find? fun entry => entry.1 = (flow, version)).map Prod.snd

/-! ### Sessions -/

/-- Stores a new session; an active one only if its conversation has no active session. -/
def createSession (session : Session) (store : Store) : Except Fault (Session × Store) :=
  if session.isActive && Table.has session.conversation store.active then
    .error (.conflict (.activeSession session.conversation))
  else
    let number := store.counts.sessions + 1
    let id := rowId "session" number
    let stored := { session with id := some id }
    .ok (stored, { store with
      sessions := Table.put id stored store.sessions
      active := if session.isActive then Table.put session.conversation id store.active
        else store.active
      counts := { store.counts with sessions := number } })

def getSession (id : String) (store : Store) : Option Session := Table.lookup? id store.sessions

/-- The session that the index names for a conversation. -/
def activeSession (conversation : String) (store : Store) : Option Session :=
  (Table.lookup? conversation store.active).bind store.getSession

/-- The identifier of a session as it is written; a session without one is called `None`. -/
def sessionName (session : Session) : String := session.id.getD "None"

/-- Writes a session if its stored revision is the expected one, and counts the revision up. An
active session is refused while another one is active on its conversation. -/
def updateSession (session : Session) (expected : Int) (now : Stamp) (store : Store) :
    Except Fault (Session × Store) :=
  let id := sessionName session
  let owner := Table.lookup? session.conversation store.active
  match store.getSession id with
  | none => .error (.conflict (.sessionRevision id expected))
  | some current =>
      if current.revision ≠ expected then .error (.conflict (.sessionRevision id expected))
      else if session.isActive && owner.isSome && owner ≠ some id then
        .error (.conflict (.activeSession session.conversation))
      else
        let stored := { session with revision := expected + 1, updatedAt := now }
        .ok (stored, { store with
          sessions := Table.put id stored store.sessions
          active :=
            if session.isActive then Table.put session.conversation id store.active
            else if owner = some id then Table.remove session.conversation store.active
            else store.active })

def activeSessionsOf (flow : String) (store : Store) : List Session :=
  (store.sessions.map Prod.snd).filter fun session => session.flow = flow && session.isActive

/-! ### Delays -/

def saveDelay (delay : Delay) (store : Store) : Delay × Store :=
  let number := store.counts.delays + 1
  let id := rowId "delay" number
  let stored := { delay with id := some id }
  (stored, { store with
    delays := Table.put id stored store.delays
    counts := { store.counts with delays := number } })

/-- The delays that have not been processed and are due, the earliest first. -/
def pendingDelays (now : Stamp) (store : Store) : Except Fault (List Delay) :=
  let waiting := (store.delays.map Prod.snd).filter fun delay => !delay.processed
  if areComparable (now :: waiting.map Delay.resumeAt) then
    sortByStamp Delay.resumeAt (waiting.filter fun delay => noLater delay.resumeAt now)
  else .error .mixedClocks

def processed (now : Stamp) (delay : Delay) : Delay :=
  { delay with processed := true, processedAt := some now }

/-- Marks a delay as processed; false when it is unknown or marked already. -/
def markDelay (id : String) (now : Stamp) (store : Store) : Bool × Store :=
  match (Table.lookup? id store.delays).filter fun delay => !delay.processed with
  | none => (false, store)
  | some delay =>
      (true, { store with delays := Table.put id (processed now delay) store.delays })

def isWaitingFor (session : Option String) (delay : Delay) : Bool :=
  some delay.session = session && !delay.processed

/-- Marks all delays of a session as processed, and counts them. -/
def markSessionDelays (session : Option String) (now : Stamp) (store : Store) : Nat × Store :=
  (store.delays.countP fun entry => isWaitingFor session entry.2,
    { store with
      delays := Table.mapValues
        (fun delay => if isWaitingFor session delay then processed now delay else delay)
        store.delays })

/-! ### Logs -/

def appendLog (store : Store) (entry : LogEntry) : Store :=
  let number := store.counts.logs + 1
  { store with
    logs := store.logs ++ [{ entry with id := some (rowId "log" number) }]
    counts := { store.counts with logs := number } }

def saveLogs (entries : List LogEntry) (store : Store) : Store := entries.foldl appendLog store

/-- Whether a row is of an organization and, where one is named, of a conversation. -/
def concerns (organization : String) (conversation : Option String) (entry : LogEntry) : Bool :=
  entry.organization = organization && (conversation.all fun wanted =>
    entry.conversation = wanted)

/-- The first rows up to a limit; a negative limit leaves that many off at the end. -/
def takeUpTo {α : Type} (limit : Int) (rows : List α) : List α :=
  if limit < 0 then rows.take (rows.length - limit.natAbs) else rows.take limit.toNat

/-- The rows of a log, the latest first; of rows of one time the last written comes first. -/
def getLogs (organization : String) (conversation : Option String) (limit : Int) (store : Store) :
    Except Fault (List LogEntry) :=
  (sortLatestFirst LogEntry.createdAt
    (store.logs.filter (concerns organization conversation)).reverse).map (takeUpTo limit)

def deleteLogs (organization : String) (conversation : Option String) (store : Store) :
    Nat × Store :=
  (store.logs.countP (concerns organization conversation),
    { store with
      logs := store.logs.filter fun entry => !concerns organization conversation entry })

/-! ### Answering calls -/

/-- A change that may fail; the store stays as it is then. -/
def changing {α : Type} (store : Store) : Except Fault (α × Store) → Except Fault α × Store
  | .ok (value, later) => (.ok value, later)
  | .error fault => (.error fault, store)

def changed {α : Type} (result : α × Store) : Except Fault α × Store := (.ok result.1, result.2)

/-- Answers a call at a point in time. -/
def answer (now : Stamp) (store : Store) :
    (request : StoreCall) → Except Fault request.Answer × Store
  | .createFlow flow => changed (store.createFlow flow)
  | .getFlow id => (.ok (store.getFlow id), store)
  | .getOwnedFlow organization id => (.ok (store.getOwnedFlow organization id), store)
  | .flowsOf organization => (store.flowsOf organization, store)
  | .updateFlow organization id settings =>
      changing store (store.updateFlow organization id settings now)
  | .deleteFlow organization id => changed (store.deleteFlow organization id)
  | .replaceGraph id expected nodes edges editor =>
      changing store (store.replaceGraph id expected nodes edges editor now)
  | .triggerCandidates organization => (store.triggerCandidates organization, store)
  | .saveVersion version => changed (store.saveVersion version)
  | .versionsOf flow => (.ok (store.versionsOf flow), store)
  | .getVersion flow version => (.ok (store.getVersion flow version), store)
  | .createSession session => changing store (store.createSession session)
  | .getSession id => (.ok (store.getSession id), store)
  | .activeSession conversation => (.ok (store.activeSession conversation), store)
  | .updateSession session expected => changing store (store.updateSession session expected now)
  | .activeSessionsOf flow => (.ok (store.activeSessionsOf flow), store)
  | .saveDelay delay => changed (store.saveDelay delay)
  | .pendingDelays time => (store.pendingDelays time, store)
  | .markDelay id => changed (store.markDelay id now)
  | .markSessionDelays session => changed (store.markSessionDelays session now)
  | .saveLogs entries => (.ok (), store.saveLogs entries)
  | .getLogs organization conversation limit =>
      (store.getLogs organization conversation limit, store)
  | .deleteLogs organization conversation => changed (store.deleteLogs organization conversation)

end Store

end ChatFlow

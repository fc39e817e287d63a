import ChatFlow.Documents.Connection
import ChatFlow.Documents.Store
import ChatFlow.Json.Extended
import ChatFlow.Simulation.Ledger
/-
A document database that is scripted: each call to a collection is recorded and takes the next of
the outcomes that are given. The connection is opened by the first call that needs it.
-/

namespace ChatFlow

/-- The state of a scripted document database. -/
structure Collections where
  connection : Documents.Connection
  outcomes : List Value
  rows : List Value
  isOpen : Bool
  opened : Nat
  closed : Nat

namespace Collections

open Arguments Documents

/-! ### Records of calls -/

def clauseMember : Clause → String × Value
  | .equals field value => (field, value)
  | .atMost field bound => (field, .obj [("$lte", bound)])

def queryValue (query : Query) : Value := .obj (query.map clauseMember)

def changeValue (changes : Table Value) : Value := .obj [("$set", .obj changes)]

def keyValue (key : SortKey) : Value :=
  .arr [.str key.field, .int (if key.descending then -1 else 1)]

def keysValue (keys : List SortKey) : Value := .arr (keys.map keyValue)

/-- An order as it is asked for: one key stands alone, several stand in a list. -/
def orderMember : List SortKey → Table Value
  | [] => []
  | [key] => [("sort", keyValue key)]
  | keys => [("sort", .arr [keysValue keys])]

def indexOptions (index : Index) : Table Value :=
  (if index.unique then [("unique", .bool true)] else []) ++
    (if index.covered.isEmpty then [] else [("partialFilterExpression", .obj index.covered)]) ++
    (index.name.map fun name => ("name", Value.str name)).toList

/-- A recorded call; options and further members stand in it only where there are any. -/
def record (collection : Collection) (method : String) (arguments : List Value)
    (options further : Table Value) : Value :=
  Json.toExtended (.obj ([("collection", .str collection.name), ("method", .str method),
    ("args", .arr arguments)] ++ (if options.isEmpty then [] else [("kwargs", .obj options)]) ++
      further))

def row : CollectionCall → Value
  | .insert collection document => record collection "insert_one" [.obj document] [] []
  | .insertAll collection documents =>
      record collection "insert_many" [.arr (documents.map .obj)] [] []
  | .findOne collection query => record collection "find_one" [queryValue query] [] []
  | .find collection query order limit =>
      record collection "find" [queryValue query] []
        (orderMember order ++ (limit.map fun limit => ("limit", Value.int limit)).toList)
  | .findAndSet collection query changes =>
      record collection "find_one_and_update" [queryValue query, changeValue changes]
        [("return_document", .bool true)] []
  | .setOne collection query changes =>
      record collection "update_one" [queryValue query, changeValue changes] [] []
  | .setAll collection query changes =>
      record collection "update_many" [queryValue query, changeValue changes] [] []
  | .removeOne collection query => record collection "delete_one" [queryValue query] [] []
  | .removeAll collection query => record collection "delete_many" [queryValue query] [] []
  | .createIndex collection index =>
      record collection "create_index" [keysValue index.keys] (indexOptions index) []

/-! ### Outcomes -/

/-- The fault that an outcome raises, if it raises one. -/
def fault? (outcome : Table Value) : Option Fault :=
  let message := text "message" outcome
  match text? "raise" outcome with
  | none => none
  | some kind => some (
      if kind = "duplicate" then .duplicateKey message
      else if ["network_timeout", "server_selection", "connection", "auto_reconnect"].contains kind
      then .connectionLost message
      else if kind = "runtime" then .runtime message
      else .collectionFailed message)

def document? (outcome : Table Value) : Option Value :=
  match value "document" outcome with
  | .null => none
  | document => some (Json.ofExtended document)

def count (name : String) (outcome : Table Value) : Nat := (integerOr 0 name outcome).toNat

/-- What a call answers when its outcome raises nothing. -/
def reply (outcome : Table Value) : (request : CollectionCall) → request.Answer
  | .insert .. => Json.ofExtended (value "inserted_id" outcome)
  | .insertAll .. => ()
  | .findOne .. => document? outcome
  | .find .. => Found.mk ((items "documents" outcome).map Json.ofExtended) none
  | .findAndSet .. => document? outcome
  | .setOne .. => count "modified_count" outcome
  | .setAll .. => count "modified_count" outcome
  | .removeOne .. => count "deleted_count" outcome
  | .removeAll .. => count "deleted_count" outcome
  | .createIndex .. => ()

/-- The connection, opened if it is not open. -/
def opening (state : Collections) : Collections :=
  if state.isOpen then state else { state with isOpen := true, opened := state.opened + 1 }

/-- The members of the next outcome, which is used up. -/
def nextOutcome (state : Collections) : Table Value × Collections :=
  match state.outcomes with
  | [] => ([], state)
  | .obj outcome :: rest => (outcome, { state with outcomes := rest })
  | _ :: rest => ([], { state with outcomes := rest })

/-- Records a call and answers it as scripted. -/
def answer (request : CollectionCall) (state : Collections) :
    Except Fault request.Answer × Collections :=
  let (outcome, state) := state.opening.nextOutcome
  let recorded := { state with rows := state.rows ++ [row request] }
  match fault? outcome with
  | some fault => (.error fault, recorded)
  | none => (.ok (reply outcome request), recorded)

/-- Closes the connection if it is open; nothing stays open even where closing fails. -/
def close (state : Collections) : Collections :=
  if state.isOpen then { state with isOpen := false, closed := state.closed + 1 } else state

/-! ### Steps -/

/-- Carries out a step: an operation of the store, or one on the database itself. -/
def perform (now : Stamp) (step : Table Value) (state : Collections) :
    Except Fault Value × Collections :=
  match text "do" step with
  | "close" => (.ok .null, state.close)
  | "_build_connection_uri" => (.ok state.connection.uri, state)
  | "ensure_indexes" =>
      let (outcome, later) := Program.run answer ensureIndexes state
      (outcome.map fun _ => .null, later)
  | name =>
      match Ledger.call? now name (members "args" step) with
      | some (.ok request) =>
          let (outcome, later) := Program.run answer (Documents.answer now request) state
          (outcome.map (Ledger.answerValue request), later)
      | some (.error fault) => (.error fault, state)
      | none => (.error .unknownName, state)

/-- Carries out steps in order, each with its own outcomes. -/
def performAll (now : Stamp) : List Value → Collections → List StepResult × Collections
  | [], state => ([], state)
  | .obj step :: rest, state =>
      let (outcome, later) :=
        perform now step { state with outcomes := items "outcomes" step, rows := [] }
      let (results, last) := performAll now rest later
      (⟨outcome, later.rows⟩ :: results, last)
  | _ :: rest, state => performAll now rest state

def atStart (connection : Connection) : Collections where
  connection := connection
  outcomes := []
  rows := []
  isOpen := false
  opened := 0
  closed := 0

/-- The addresses that were connected to. -/
def uris (state : Collections) : List Value := List.replicate state.opened state.connection.uri

def databases (state : Collections) : List Value :=
  List.replicate state.opened state.connection.database

end Collections

end ChatFlow

import ChatFlow.Engine.Call
import ChatFlow.Json.Reader
import ChatFlow.Simulation.Arguments
/-
Scripts: how the services around the engine answer in a simulation, and what becomes of the next
calls of each operation of the store.
-/

namespace ChatFlow

/-- What becomes of one call of the store. -/
inductive StoreOutcome where
  | through
  | failure (fault : Fault)
  | absent
  | refused
  | altered (changes : Table Value)
  deriving DecidableEq, Repr

/-- How services answer. Deliveries answer nothing and fail where their name has a fault. -/
structure Scripts where
  reply : Except Fault Value
  http : Except Fault HttpAnswer
  history : Except Fault (List Value)
  failing : Table Fault

namespace Scripts

def initial : Scripts where
  reply := .ok (.str "Posso ajudar com isso.")
  http := .ok ⟨200, "\x7b\x7d", .obj []⟩
  history := .ok []
  failing := []

/-- The fault that a script raises, if it raises one. -/
def fault? (script : Table Value) : Option Fault :=
  match Arguments.text? "raise" script with
  | some "external" => some (.external {
      message := Arguments.text "message" script
      isTimeout := Arguments.flag "is_timeout" script
      statusCode := Arguments.integerOr 502 "status_code" script })
  | some _ => some (.runtime (Arguments.text "message" script))
  | none => none

/-- An answer unless the script raises a fault. -/
def orFault {α : Type} (script : Table Value) (answer : Except Fault α) : Except Fault α :=
  match fault? script with
  | some fault => .error fault
  | none => answer

/-- The value that is written in a text argument; null where it is absent. -/
def written (name : String) (script : Table Value) : Except Fault Value :=
  match Arguments.text? name script with
  | none => .ok .null
  | some text =>
      match Json.ofText text with
      | .ok value => .ok value
      | .error .integerTooLong => .error .unreadableNumeral
      | .error (.malformed _) => .error .malformedJson

def replyOf (script : Table Value) : Except Fault Value :=
  orFault script (.ok (Arguments.value "reply" script))

def httpOf (script : Table Value) : Except Fault HttpAnswer :=
  orFault script (do
    return {
      statusCode := Arguments.integerOr 200 "status_code" script
      body := Arguments.text "body" script
      json := ← written "json" script })

def historyOf (script : Table Value) : Except Fault (List Value) :=
  orFault script (.ok (Arguments.items "history" script))

def failingOf (script : Table Value) : Table Fault :=
  script.filterMap fun entry =>
    match entry.2 with
    | .obj inner => (fault? inner).map fun fault => (entry.1, fault)
    | _ => none

def change (given : Table Value) (scripts : Scripts) : Scripts where
  reply := if Table.has "ai" given then replyOf (Arguments.members "ai" given) else scripts.reply
  http := if Table.has "http" given then httpOf (Arguments.members "http" given) else scripts.http
  history :=
    if Table.has "history" given then historyOf (Arguments.members "history" given)
    else scripts.history
  failing :=
    if Table.has "failing" given then failingOf (Arguments.members "failing" given)
    else scripts.failing

end Scripts

namespace StoreOutcome

def ofValue : Value → StoreOutcome
  | .obj changes => .altered changes
  | .str "conflict" => .failure (.conflict (.other "simulated race"))
  | .str "runtime" => .failure (.runtime "injected")
  | .str "db_down" => .failure (.database "Database connection error: injected" 503)
  | .str "none" => .absent
  | .str "false" => .refused
  | _ => .through

/-- The outcomes of the next calls of each operation. -/
def ofTable (given : Table Value) : Table (List StoreOutcome) :=
  given.map fun entry =>
    match entry.2 with
    | .arr outcomes => (entry.1, outcomes.map ofValue)
    | _ => (entry.1, [])

end StoreOutcome

end ChatFlow

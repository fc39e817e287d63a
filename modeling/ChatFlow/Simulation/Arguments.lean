import ChatFlow.Value.Spoken
import ChatFlow.Variable.Bag
/-
Arguments of scripted steps: members of an object that are taken as a text, a number or a list, with
a value to take where they are absent.
-/

namespace ChatFlow.Arguments

def text? (name : String) (arguments : Table Value) : Option String :=
  match Table.lookup? name arguments with
  | some (.str text) => some text
  | _ => none

def textOr (absent : String) (name : String) (arguments : Table Value) : String :=
  (text? name arguments).getD absent

def text (name : String) (arguments : Table Value) : String := textOr "" name arguments

def integer? (name : String) (arguments : Table Value) : Option Int :=
  match Table.lookup? name arguments with
  | some (.int value) => some value
  | _ => none

def integerOr (absent : Int) (name : String) (arguments : Table Value) : Int :=
  (integer? name arguments).getD absent

def flag (name : String) (arguments : Table Value) : Bool :=
  match Table.lookup? name arguments with
  | some value => value.isTruthy
  | none => false

def value (name : String) (arguments : Table Value) : Value :=
  (Table.lookup? name arguments).getD .null

def members (name : String) (arguments : Table Value) : Table Value :=
  match Table.lookup? name arguments with
  | some (.obj members) => members
  | _ => []

def items (name : String) (arguments : Table Value) : List Value :=
  match Table.lookup? name arguments with
  | some (.arr items) => items
  | _ => []

/-- A list of names with values, as a table. -/
def ofPairs (pairs : List Value) : Table Value :=
  Table.ofSettings (pairs.filterMap fun pair =>
    match pair with
    | .arr [.str name, value] => some (name, value)
    | _ => none)

/-- Given values as variables; null is the empty text. -/
def variablesOf (given : Table Value) : Variables :=
  Table.mapValues (fun value => if value = .null then "" else value.spoken) given

end ChatFlow.Arguments

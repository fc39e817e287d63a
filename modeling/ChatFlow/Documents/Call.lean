import ChatFlow.Program
/-
Calls to the collections of a document database, as data: which documents are meant, what becomes
of them, and what each call answers.
-/

namespace ChatFlow.Documents

inductive Collection where
  | flows | versions | sessions | delays | logs
  deriving DecidableEq, Repr

def Collection.name : Collection → String
  | .flows => "flows"
  | .versions => "flow_versions"
  | .sessions => "flow_sessions"
  | .delays => "delays"
  | .logs => "flow_execution_logs"

/-- A condition on one field of a document. -/
inductive Clause where
  | equals (field : String) (value : Value)
  | atMost (field : String) (bound : Value)
  deriving DecidableEq, Repr

/-- A document is meant when it meets every clause. -/
abbrev Query := List Clause

/-- A field by which documents are put in order. -/
structure SortKey where
  field : String
  descending : Bool
  deriving DecidableEq, Repr

def ascending (field : String) : SortKey := ⟨field, false⟩

def descending (field : String) : SortKey := ⟨field, true⟩

/-- An index over some fields. It may be unique, and it may cover only the documents that hold some
values. -/
structure Index where
  keys : List SortKey
  unique : Bool
  covered : Table Value
  name : Option String
  deriving DecidableEq, Repr

/-- The documents that a search found, and the fault that ended it before its end, if one did. -/
structure Found where
  documents : List Value
  fault : Option Fault
  deriving DecidableEq, Repr

inductive CollectionCall where
  | insert (collection : Collection) (document : Table Value)
  | insertAll (collection : Collection) (documents : List (Table Value))
  | findOne (collection : Collection) (query : Query)
  | find (collection : Collection) (query : Query) (order : List SortKey) (limit : Option Int)
  | findAndSet (collection : Collection) (query : Query) (changes : Table Value)
  | setOne (collection : Collection) (query : Query) (changes : Table Value)
  | setAll (collection : Collection) (query : Query) (changes : Table Value)
  | removeOne (collection : Collection) (query : Query)
  | removeAll (collection : Collection) (query : Query)
  | createIndex (collection : Collection) (index : Index)
  deriving DecidableEq, Repr

/-- What a call answers: the identifier of a new document, documents as they are stored, or how many
documents were changed. -/
def CollectionCall.Answer : CollectionCall → Type
  | .insert .. => Value
  | .insertAll .. => Unit
  | .findOne .. => Option Value
  | .find .. => Found
  | .findAndSet .. => Option Value
  | .setOne .. => Nat
  | .setAll .. => Nat
  | .removeOne .. => Nat
  | .removeAll .. => Nat
  | .createIndex .. => Unit

end ChatFlow.Documents

namespace ChatFlow

/-- A program over the collections of a document database. -/
abbrev Documents (α : Type) := Program Documents.CollectionCall.Answer α

def Documents.ask (request : Documents.CollectionCall) : Documents request.Answer :=
  Program.perform request

end ChatFlow

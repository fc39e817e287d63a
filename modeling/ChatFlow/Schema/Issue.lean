import ChatFlow.Json.Printer
/-
What is wrong with a value that should have been a record of some kind: the kind of the fault and
the path of names and positions that leads to it.
-/

namespace ChatFlow

/-- The kinds of faults found while a value is read as a record. -/
inductive IssueKind where
  | missing
  | notText
  | tooShort
  | notBoolean
  | unreadableBoolean
  | notInteger
  | unreadableInteger
  | integerTooLong
  | fractionalInteger
  | notFinite
  | notReal
  | unreadableReal
  | notList
  | tooLong
  | notDictionary
  | notRecord
  | notAttributes
  | unknownWord
  | unknownStatus
  | noTag
  | unknownTag
  | notAbove
  | notAtLeast
  | notAtMost
  | notStamp
  | unreadableStamp
  | unreadableStampOrDate
  | malformedJson
  deriving DecidableEq, Repr

/-- The name under which a kind of fault is reported. -/
def IssueKind.name : IssueKind → String
  | .missing => "missing"
  | .notText => "string_type"
  | .tooShort => "string_too_short"
  | .notBoolean => "bool_type"
  | .unreadableBoolean => "bool_parsing"
  | .notInteger => "int_type"
  | .unreadableInteger => "int_parsing"
  | .integerTooLong => "int_parsing_size"
  | .fractionalInteger => "int_from_float"
  | .notFinite => "finite_number"
  | .notReal => "float_type"
  | .unreadableReal => "float_parsing"
  | .notList => "list_type"
  | .tooLong => "too_long"
  | .notDictionary => "dict_type"
  | .notRecord => "model_type"
  | .notAttributes => "model_attributes_type"
  | .unknownWord => "literal_error"
  | .unknownStatus => "enum"
  | .noTag => "union_tag_not_found"
  | .unknownTag => "union_tag_invalid"
  | .notAbove => "greater_than"
  | .notAtLeast => "greater_than_equal"
  | .notAtMost => "less_than_equal"
  | .notStamp => "datetime_type"
  | .unreadableStamp => "datetime_parsing"
  | .unreadableStampOrDate => "datetime_from_date_parsing"
  | .malformedJson => "json_invalid"

/-- One step into a value: a member of an object or an item of a list. -/
inductive PathStep where
  | name (key : String)
  | index (position : Nat)
  deriving DecidableEq, Repr

/-- A fault and where it is. -/
structure Issue where
  kind : IssueKind
  path : List PathStep
  deriving DecidableEq, Repr

def PathStep.toValue : PathStep → Value
  | .name key => .str key
  | .index position => .int position

namespace Issue

def under (step : PathStep) (issue : Issue) : Issue := { issue with path := step :: issue.path }

def pathValue (issue : Issue) : Value := .arr (issue.path.map PathStep.toValue)

/-- The issue as an object of a kind and a path. -/
def toValue (issue : Issue) : Value :=
  .obj [("type", .str issue.kind.name), ("loc", issue.pathValue)]

/-- Text by which issues are put in order: path first, then kind. -/
def orderText (issue : Issue) : List Char :=
  Json.print .spacedAscii (.arr [issue.pathValue, .str issue.kind.name])

/-- Whether one list of characters stands no later than another in code order. -/
def noLater : List Char → List Char → Bool
  | [], _ => true
  | _ :: _, [] => false
  | a :: as, b :: bs => if a = b then noLater as bs else a.toNat < b.toNat

/-- Issues in the order of their paths and kinds. -/
def ordered (issues : List Issue) : List Issue :=
  issues.mergeSort fun left right => noLater left.orderText right.orderText

end Issue

end ChatFlow

import ChatFlow.Value.Basic
/-
Extended form of stored documents: a stamp and an object identifier are written as objects with one
member, whose name says which of the two it is.
-/

namespace ChatFlow.Json

mutual

/-- The value that an extended form stands for. -/
def ofExtended : Value → Value
  | .obj [("$date", .str text)] =>
      match Stamp.read? text.toList with
      | some stamp => .stamp stamp
      | none => .obj [("$date", .str text)]
  | .obj [("$oid", .str digits)] => .objectId digits
  | .obj members => .obj (ofExtendedMembers members)
  | .arr items => .arr (ofExtendedItems items)
  | value => value

def ofExtendedItems : List Value → List Value
  | [] => []
  | value :: rest => ofExtended value :: ofExtendedItems rest

def ofExtendedMembers : List (String × Value) → List (String × Value)
  | [] => []
  | (name, value) :: rest => (name, ofExtended value) :: ofExtendedMembers rest

end

mutual

def toExtended : Value → Value
  | .stamp stamp => .obj [("$date", .str stamp.text)]
  | .objectId digits => .obj [("$oid", .str digits)]
  | .arr items => .arr (toExtendedItems items)
  | .obj members => .obj (toExtendedMembers members)
  | value => value

def toExtendedItems : List Value → List Value
  | [] => []
  | value :: rest => toExtended value :: toExtendedItems rest

def toExtendedMembers : List (String × Value) → List (String × Value)
  | [] => []
  | (name, value) :: rest => (name, toExtended value) :: toExtendedMembers rest

end

end ChatFlow.Json

import ChatFlow.Number.Binary64
import ChatFlow.Table
import ChatFlow.Time.Stamp
/-
Values of documents: the kinds of JSON, and beside them time stamps and object identifiers, which
stored documents hold as leaves. Integers and reals are told apart, and an object keeps its members
in order.
-/

namespace ChatFlow

inductive Value where
  | null
  | bool (value : Bool)
  | int (value : Int)
  | real (value : Binary64)
  | str (text : String)
  | stamp (value : Stamp)
  | objectId (digits : String)
  | arr (items : List Value)
  | obj (members : List (String × Value))
  deriving Repr, Inhabited

namespace Value

/-! ### Equality is decidable -/

mutual

def same : Value → Value → Bool
  | .null, .null => true
  | .bool a, .bool b => a == b
  | .int a, .int b => a == b
  | .real a, .real b => a == b
  | .str a, .str b => a == b
  | .stamp a, .stamp b => a == b
  | .objectId a, .objectId b => a == b
  | .arr a, .arr b => sameItems a b
  | .obj a, .obj b => sameMembers a b
  | _, _ => false

def sameItems : List Value → List Value → Bool
  | [], [] => true
  | a :: as, b :: bs => same a b && sameItems as bs
  | _, _ => false

def sameMembers : List (String × Value) → List (String × Value) → Bool
  | [], [] => true
  | (k, a) :: as, (l, b) :: bs => k == l && same a b && sameMembers as bs
  | _, _ => false

end

mutual

theorem same_iff : (left right : Value) → (same left right = true ↔ left = right)
  | .null, right => by cases right <;> simp [same]
  | .bool a, right => by cases right <;> simp [same]
  | .int a, right => by cases right <;> simp [same]
  | .real a, right => by cases right <;> simp [same]
  | .str a, right => by cases right <;> simp [same]
  | .stamp a, right => by cases right <;> simp [same]
  | .objectId a, right => by cases right <;> simp [same]
  | .arr a, right => by
      cases right with
      | arr b => simp [same, sameItems_iff a b]
      | _ => simp [same]
  | .obj a, right => by
      cases right with
      | obj b => simp [same, sameMembers_iff a b]
      | _ => simp [same]

theorem sameItems_iff : (left right : List Value) → (sameItems left right = true ↔ left = right)
  | [], [] => by simp [sameItems]
  | [], _ :: _ => by simp [sameItems]
  | _ :: _, [] => by simp [sameItems]
  | a :: as, b :: bs => by simp [sameItems, same_iff a b, sameItems_iff as bs]

theorem sameMembers_iff :
    (left right : List (String × Value)) → (sameMembers left right = true ↔ left = right)
  | [], [] => by simp [sameMembers]
  | [], _ :: _ => by simp [sameMembers]
  | _ :: _, [] => by simp [sameMembers]
  | (k, a) :: as, (l, b) :: bs => by
      simp [sameMembers, same_iff a b, sameMembers_iff as bs]

end

instance : DecidableEq Value := fun left right =>
  decidable_of_iff (same left right = true) (same_iff left right)

/-! ### Members -/

/-- The member of an object; `none` for other values. -/
def get? (value : Value) (name : String) : Option Value :=
  match value with
  | .obj members => Table.lookup? name members
  | _ => none

/-- Whether a value counts as present: null, false, zero and empty values do not. -/
def isTruthy : Value → Bool
  | .null => false
  | .bool value => value
  | .int value => value != 0
  | .real value => !value.isZero
  | .str text => !text.isEmpty
  | .arr items => !items.isEmpty
  | .obj members => !members.isEmpty
  | .stamp _ | .objectId _ => true

/-! ### Absent values as null -/

def ofText? (text : Option String) : Value := (text.map Value.str).getD .null

def ofInt? (value : Option Int) : Value := (value.map Value.int).getD .null

def ofStamp? (value : Option Stamp) : Value := (value.map Value.stamp).getD .null

def ofTexts (texts : List String) : Value := .arr (texts.map .str)

def ofTextTable (table : Table String) : Value := .obj (Table.mapValues .str table)

/-! ### Plain form -/

mutual

/-- The value as untyped JSON: stamps and identifiers as texts, numbers that are not finite as
null. -/
def toPlain : Value → Value
  | .real value => if value.isFinite then .real value else .null
  | .stamp value => .str value.text
  | .objectId digits => .str digits
  | .arr items => .arr (toPlainItems items)
  | .obj members => .obj (toPlainMembers members)
  | value => value

def toPlainItems : List Value → List Value
  | [] => []
  | value :: rest => toPlain value :: toPlainItems rest

def toPlainMembers : List (String × Value) → List (String × Value)
  | [] => []
  | (name, value) :: rest => (name, toPlain value) :: toPlainMembers rest

end

end Value

end ChatFlow

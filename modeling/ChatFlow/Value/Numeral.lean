import ChatFlow.Fault
import ChatFlow.Number.Reading
/-
Values as numbers: a text is read as a numeral, a truth value counts as one or zero, and a real
number loses its fraction where an integer is asked for.
-/

namespace ChatFlow.Value

/-- The value as an integer. -/
def toInteger : Value → Except Fault Int
  | .int value => .ok value
  | .bool value => .ok (if value then 1 else 0)
  | .str text =>
      match Number.readInt? text.toList with
      | some value => .ok value
      | none => .error .unreadableNumeral
  | .real value =>
      match value.truncate? with
      | some value => .ok value
      | none => .error (if value.isNaN then .unreadableNumeral else .numberTooLarge)
  | _ => .error .wrongKind

/-- The value as a real number. -/
def toReal : Value → Except Fault Binary64
  | .real value => .ok value
  | .bool value => .ok (Binary64.ofInt (if value then 1 else 0))
  | .int value =>
      match Binary64.ofInt? value with
      | some value => .ok value
      | none => .error .numberTooLarge
  | .str text =>
      match Number.readReal? text.toList with
      | some value => .ok value
      | none => .error .unreadableNumeral
  | _ => .error .wrongKind

end ChatFlow.Value

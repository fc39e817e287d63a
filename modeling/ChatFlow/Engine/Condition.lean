import ChatFlow.Graph.Content
import ChatFlow.Variable.Interpolation
import ChatFlow.Text.Search
/-
Conditions on the variables of a session.
-/

namespace ChatFlow.Condition

open Text Interpolation

/-- Characters with a point for a comma, where there is one comma and no point. -/
def commaToPoint (characters : List Char) : List Char :=
  if characters.count ',' == 1 && !characters.contains '.' then
    characters.map fun character => if character == ',' then '.' else character
  else characters

/-- The number that a text holds; a single comma may stand for the point. -/
def numberOf? (text : String) : Option Binary64 :=
  Number.readReal? (commaToPoint (trimBlanks text.toList))

/-- Compares two texts as numbers; false when one is no number. -/
def compareNumbers (test : Binary64 → Binary64 → Bool) (left right : String) : Bool :=
  match numberOf? left, numberOf? right with
  | some left, some right => test left right
  | _, _ => false

/-- Whether an operator holds between a variable's text and the expected text. -/
def holdsFor (operator : ConditionOperator) (actual expected : String) : Bool :=
  match operator with
  | .equals => actual == expected
  | .notEquals => actual != expected
  | .contains => occursIn expected.toList actual.toList
  | .notContains => !occursIn expected.toList actual.toList
  | .startsWith => startsWith expected.toList actual.toList
  | .endsWith => endsWith expected.toList actual.toList
  | .isEmpty => (trimBlanks actual.toList).isEmpty
  | .isNotEmpty => !(trimBlanks actual.toList).isEmpty
  | .greaterThan => compareNumbers (fun left right => right.lt left) actual expected
  | .lessThan => compareNumbers Binary64.lt actual expected

/-- Whether a rule holds for some variables; placeholders in its value are replaced. -/
def ruleHolds (bag : Variables) (rule : ConditionRule) : Bool :=
  holdsFor rule.operator (variableText bag rule.variableName)
    (interpolate? bag rule.value)

/-- Whether a condition holds; a condition without rules does not. -/
def holds (bag : Variables) (content : ConditionContent) : Bool :=
  let results := content.rules.map (ruleHolds bag)
  !results.isEmpty && (match content.logic with
    | .any => results.any id
    | .all => results.all id)

end ChatFlow.Condition

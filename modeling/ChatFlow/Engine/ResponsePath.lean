import ChatFlow.Json.Printer
import ChatFlow.Text.Digit
import ChatFlow.Text.Search
import ChatFlow.Fault
/-
Taking a value out of the answer to an outbound request: a dotted path names members of objects and
positions in lists.
-/

namespace ChatFlow.ResponsePath

open Text

/-- The value one step inside a value: a member by its name, or an item by its position. -/
def step (value : Value) (segment : List Char) : Except Fault (Option Value) :=
  match value with
  | .obj members => .ok (Table.lookup? (String.ofList segment) members)
  | .arr items =>
      if isDecimal segment then
        if segment.length > maxNumeralDigits then .error .unreadableNumeral
        else .ok items[digitsValue segment]?
      else .ok none
  | _ => .ok none

/-- The value at the end of a path; `none` as soon as a segment leads nowhere. -/
def follow : Value → List (List Char) → Except Fault (Option Value)
  | value, [] => .ok (some value)
  | value, segment :: rest =>
      match step value segment with
      | .error fault => .error fault
      | .ok none => .ok none
      | .ok (some inner) => follow inner rest

/-- A value as text: a text as it is, null as the empty text, anything else as JSON. -/
def textOf : Value → String
  | .null => ""
  | .str text => text
  | value => Json.toText value

/-- The text at a path of an answer. Without a path it is the whole body. -/
def extract (body : String) (json : Value) (path : Option String) : Except Fault String :=
  match path with
  | none => .ok body
  | some path =>
      if path.isEmpty then .ok body
      else if json = .null then .ok ""
      else match follow json (splitWhere (· == '.') path.toList) with
        | .error fault => .error fault
        | .ok none => .ok ""
        | .ok (some value) => .ok (textOf value)

end ChatFlow.ResponsePath

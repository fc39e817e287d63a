import ChatFlow.Fault
import ChatFlow.Flow.Basic
import ChatFlow.Flow.Version
import ChatFlow.Json.Reader
import ChatFlow.Session.Basic
import ChatFlow.Session.Delay
import ChatFlow.Session.Log
import ChatFlow.Text.Blank
import ChatFlow.Value.Spoken
/-
Rows as documents. A document holds the fields of a row without its identifier; the database adds
the identifier under a name of its own.
-/

namespace ChatFlow.Documents

/-! ### Identifiers -/

def isHexDigit (character : Char) : Bool := (Json.hexValue? character).isSome

/-- Pairs of hexadecimal digits in small letters; blanks may stand between the pairs. -/
def hexPairs? : List Char → Option (List Char)
  | [] => some []
  | first :: rest =>
      if Text.isAsciiBlank first then hexPairs? rest
      else
        match rest with
        | [] => none
        | second :: rest =>
            if isHexDigit first && isHexDigit second then
              (hexPairs? rest).map fun digits =>
                Number.asciiLower first :: Number.asciiLower second :: digits
            else none

/-- The object identifier that a text of twenty-four characters names. -/
def objectId? (text : String) : Option Value :=
  if text.length = 24 then
    (hexPairs? text.toList).map fun digits => .objectId (String.ofList digits)
  else none

/-- The name under which a document holds its identifier. -/
def idField : String := "_id"

/-! ### Documents of rows -/

def ofFlow (flow : Flow) : Table Value :=
  flow.settingsMembers ++ flow.editMembers ++ flow.graphMembers

def stored (id : Value) (document : Table Value) : Value :=
  .obj (Table.put idField id document)

def rowMembers : Value → Except Fault (Table Value)
  | .obj document =>
      match Table.lookup? idField document with
      | some id => .ok (Table.put "id" (.str id.spoken) (Table.remove idField document))
      | none => .error (.missingMember idField)
  | _ => .error .notARecord

/-- Reads the row that a stored document holds. -/
def readRow {α : Type} (ofMembers : Table Value → Checked α) (document : Value) :
    Except Fault α := do
  match ofMembers (← rowMembers document) with
  | .accepted row => return row
  | .rejected issues => throw (.invalidData issues)

end ChatFlow.Documents

import ChatFlow.Flow.Management
import ChatFlow.Json.Reader
/-
Bringing in a flow from the text of a file, which holds the settings of the flow beside its nodes
and edges. The flow becomes an inactive draft first; then its graph is saved like that of an editor.
-/

namespace ChatFlow

/-- What a file says about a flow. -/
structure FlowFile where
  settings : NewFlow
  nodes : List Value
  edges : List Value
  deriving DecidableEq, Repr

namespace FlowFile

/-- What a member lists: the items of a list, or the names of an object. An empty text lists
nothing, and any other value stands for itself, which is no node and no edge. -/
def listed : Value → List Value
  | .arr items => items
  | .obj members => members.map fun entry => .str entry.1
  | .str "" => []
  | value => [value]

/-- What a member lists; an absent member lists nothing. -/
def listedIn (name : String) (members : Table Value) : List Value :=
  ((Table.lookup? name members).map listed).getD []

def ofMembers (members : Table Value) : Checked FlowFile :=
  (NewFlow.ofMembers (Table.remove "nodes" (Table.remove "edges" members))).map fun settings =>
    ⟨settings, listedIn "nodes" members, listedIn "edges" members⟩

def ofText (text : String) : Except Fault FlowFile := do
  match Json.ofText text with
  | .error (.malformed _) => throw .malformedJson
  | .error .integerTooLong => throw .unreadableNumeral
  | .ok (.obj members) =>
      match ofMembers members with
      | .accepted file => return file
      | .rejected issues => throw (.invalidData issues)
  | .ok _ => throw .notARecord

/-- Creates the flow of a file and saves its graph. A graph that is refused leaves the draft
behind. -/
def create (organization : String) (file : FlowFile) : Engine Flow := do
  let draft ← Management.create organization none file.settings
  Management.saveCanvas organization (draft.id.getD "") file.nodes file.edges none

def bringIn (organization text : String) : Engine Flow := do
  create organization (← Program.ofExcept (ofText text))

/-- What is said of a flow that was brought in. -/
def notice (flow : Flow) : String :=
  "Imported flow '" ++ flow.name ++ "' with ID " ++ flow.id.getD "" ++ " (version " ++
    toString flow.version ++ ", " ++ toString flow.nodes.length ++ " nodes)"

end FlowFile

end ChatFlow

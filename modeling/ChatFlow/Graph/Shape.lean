import ChatFlow.Fault
import ChatFlow.Value.Spoken
/-
Two shapes of nodes and edges. The stored shape is the one that nodes and edges are read from; the
shape of the editor keeps a node's content beside its label and names the ends of an edge otherwise.
-/

namespace ChatFlow.Shape

/-- The members of an object. Values without members of any kind fault otherwise than texts and
lists do. -/
def membersOf : Value → Except Fault (Table Value)
  | .obj members => .ok members
  | .str _ | .arr _ | .stamp _ | .objectId _ => .error .notARecord
  | _ => .error .nullRecord

/-- A member, null when it is absent. -/
def member (name : String) (members : Table Value) : Value :=
  (Table.lookup? name members).getD .null

/-- The first value that counts as present, or else the last value. -/
def orElse (first second : Value) : Value := if first.isTruthy then first else second

/-- The members of the editor's data of a node; data that counts as absent has none. -/
def dataMembers (members : Table Value) : Except Fault (Table Value) :=
  match member "data" members with
  | .obj data => .ok data
  | data => if data.isTruthy then .error .notARecord else .ok []

/-- The content of a node in the editor's shape: the content proper, or else the data without the
label and the name. -/
def contentOf (data : Table Value) : Value :=
  match member "content" data with
  | .null => .obj (data.filter fun entry => entry.1 != "label" && entry.1 != "name")
  | content => content

def storedNode (node : Value) : Except Fault (Table Value) := do
  let members ← membersOf node
  if Table.has "node_id" members && Table.has "node_type" members then return members
  else
    let data ← dataMembers members
    let name := orElse (member "label" data) (orElse (member "name" data)
      (orElse (member "name" members) (.str "")))
    let position := match member "position" members with
      | .null => []
      | position => [("position", position)]
    return [("node_id", member "id" members),
      ("node_type", orElse (member "type" members) (member "node_type" data)),
      ("name", name), ("content", contentOf data)] ++ position

/-- The identifier of an edge that has none: its ends and its handle. -/
def edgeName (members : Table Value) : String :=
  "e_" ++ (member "source_node_id" members).spoken ++ "_" ++
    (orElse (member "source_handle" members) (.str "out")).spoken ++ "_" ++
    (member "target_node_id" members).spoken

def storedEdge (edge : Value) : Except Fault (Table Value) := do
  let members ← membersOf edge
  let stored :=
    if Table.has "source_node_id" members && Table.has "target_node_id" members then members
    else
      [("edge_id", member "id" members), ("source_node_id", member "source" members),
        ("target_node_id", member "target" members),
        ("source_handle", member "sourceHandle" members),
        ("target_handle", member "targetHandle" members), ("label", member "label" members),
        ("edge_type", orElse (member "type" members) (.str "default"))]
  if (member "edge_id" stored).isTruthy then return stored
  else return Table.put "edge_id" (.str (edgeName stored)) stored

end ChatFlow.Shape

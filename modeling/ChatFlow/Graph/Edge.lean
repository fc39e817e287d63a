import ChatFlow.Schema.Codec
/-
Edges of a flow's graph, with the handle of the source node they leave from.
-/

namespace ChatFlow

open Schema

structure Edge where
  id : String
  source : String
  target : String
  sourceHandle : Option String
  targetHandle : Option String
  label : Option String
  kind : String
  extras : Table Value
  deriving DecidableEq, Repr

namespace Edge

def fields : List String :=
  ["edge_id", "source_node_id", "target_node_id", "source_handle", "target_handle", "label",
    "edge_type"]

def ofMembers (members : Table Value) : Checked Edge :=
  mk <$> required .text "edge_id" members
    <*> required .text "source_node_id" members
    <*> required .text "target_node_id" members
    <*> withDefault (.optional .text) "source_handle" none members
    <*> withDefault (.optional .text) "target_handle" none members
    <*> withDefault (.optional .text) "label" none members
    <*> withDefault .text "edge_type" "default" members
    <*> .accepted (extraMembers fields members)

def toMembers (edge : Edge) : Table Value :=
  [("edge_id", .str edge.id), ("source_node_id", .str edge.source),
    ("target_node_id", .str edge.target), ("source_handle", .ofText? edge.sourceHandle),
    ("target_handle", .ofText? edge.targetHandle), ("label", .ofText? edge.label),
    ("edge_type", .str edge.kind)] ++ Value.toPlainMembers edge.extras

def codec : Codec Edge := ⟨decodeRecord .notRecord ofMembers, fun edge => .obj edge.toMembers⟩

end Edge

end ChatFlow

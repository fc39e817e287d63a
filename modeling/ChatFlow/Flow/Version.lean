import ChatFlow.Schema.Codec
/-
Snapshots of a flow's graph, one for each version that has been replaced.
-/

namespace ChatFlow

open Schema

structure FlowVersion where
  id : Option String
  flow : String
  version : Int
  nodes : List (Table Value)
  edges : List (Table Value)
  createdBy : Option String
  createdAt : Stamp
  deriving DecidableEq, Repr

namespace FlowVersion

def ofMembers (now : Stamp) (members : Table Value) : Checked FlowVersion :=
  mk <$> withDefault (.optional .text) "id" none members
    <*> required .text "flow_id" members
    <*> required .integer "version" members
    <*> withDefault (.list .object) "nodes_data" [] members
    <*> withDefault (.list .object) "edges_data" [] members
    <*> withDefault (.optional .text) "created_by" none members
    <*> withDefault .stamp "created_at" now members

def decode (now : Stamp) : Value → Checked FlowVersion :=
  decodeRecord .notRecord (ofMembers now)

def documentMembers (version : FlowVersion) : Table Value :=
  [("flow_id", .str version.flow), ("version", .int version.version),
    ("nodes_data", .arr (version.nodes.map .obj)), ("edges_data", .arr (version.edges.map .obj)),
    ("created_by", .ofText? version.createdBy), ("created_at", .stamp version.createdAt)]

/-- The snapshot with its graph in plain form. -/
def plain (version : FlowVersion) : FlowVersion :=
  { version with
    nodes := version.nodes.map Value.toPlainMembers
    edges := version.edges.map Value.toPlainMembers }

def toMembers (version : FlowVersion) : Table Value :=
  ("id", .ofText? version.id) :: version.plain.documentMembers

def toValue (version : FlowVersion) : Value := .obj version.toMembers

end FlowVersion

end ChatFlow

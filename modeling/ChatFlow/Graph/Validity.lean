import ChatFlow.Graph.Shape
import ChatFlow.Graph.Node
import ChatFlow.Graph.Edge
/-
When nodes and edges make a flow: identifiers are unique, there is exactly one start node and it has
the start identifier, edges join nodes that are there, and none leads to the start.
-/

namespace ChatFlow

/-- A checked graph. -/
structure Graph where
  nodes : List Node
  edges : List Edge
  deriving DecidableEq, Repr

namespace Graph

/-- The first identifier that has come before. -/
def firstRepeated? : (seen : List String) → List String → Option String
  | _, [] => none
  | seen, id :: rest =>
      if seen.contains id then some id else firstRepeated? (id :: seen) rest

def nodesProblem? (nodes : List Node) : Option GraphProblem :=
  match firstRepeated? [] (nodes.map Node.id) with
  | some id => some (.duplicateNode id)
  | none =>
      match nodes.filter fun node => node.kind = .start with
      | [node] => if node.id = Node.startId then none else some .startNode
      | _ => some .startNode

/-- What is wrong with the edges, the first edge first. -/
def edgesProblem? (nodes : List String) : (seen : List String) → List Edge → Option GraphProblem
  | _, [] => none
  | seen, edge :: rest =>
      if seen.contains edge.id then some (.duplicateEdge edge.id)
      else if !nodes.contains edge.source then some (.unknownSource edge.id edge.source)
      else if !nodes.contains edge.target then some (.unknownTarget edge.id edge.target)
      else if edge.target = Node.startId then some (.targetsStart edge.id)
      else edgesProblem? nodes (edge.id :: seen) rest

def problem? (graph : Graph) : Option GraphProblem :=
  nodesProblem? graph.nodes <|> edgesProblem? (graph.nodes.map Node.id) [] graph.edges

/-- Reads nodes of either shape; the issues of all nodes are kept. -/
def readNodes (nodes : List Value) : Except Fault (List Node) := do
  let stored ← nodes.mapM Shape.storedNode
  match Schema.decodeItems Node.codec 0 (stored.map Value.obj) with
  | .accepted nodes => return nodes
  | .rejected issues => throw (.invalidGraph issues)

def readEdge (edge : Value) : Except Fault Edge := do
  match Edge.codec.decode (.obj (← Shape.storedEdge edge)) with
  | .accepted edge => return edge
  | .rejected issues => throw (.invalidGraph issues)

/-- Reads and checks a graph whose nodes and edges are of either shape. -/
def ofValues (nodes edges : List Value) : Except Fault Graph := do
  let graph : Graph := ⟨← readNodes nodes, ← edges.mapM readEdge⟩
  match graph.problem? with
  | none => return graph
  | some problem => throw (.graphProblem problem)

def nodeValues (graph : Graph) : List Value := graph.nodes.map Node.codec.encode

def edgeValues (graph : Graph) : List Value := graph.edges.map Edge.codec.encode

end Graph

end ChatFlow

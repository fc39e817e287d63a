import ChatFlow.Graph.Edge
import ChatFlow.Text.Blank
import ChatFlow.Text.Case
/-
Choosing the edge by which a session leaves a node.
-/

namespace ChatFlow

open Text

namespace Edge

def leavesFrom (handle : String) (edge : Edge) : Bool := edge.sourceHandle == some handle

/-- Whether an edge's label, trimmed, is a text up to case. -/
def isLabelled (handle : String) (edge : Edge) : Bool :=
  match edge.label with
  | some label => !label.isEmpty && lower (trim label) == lower handle
  | none => false

/-- The first edge that leaves from a handle, or else the first one labelled with it. -/
def forHandle? (handle : String) (edges : List Edge) : Option Edge :=
  edges.find? (leavesFrom handle) <|> edges.find? (isLabelled handle)

/-- The edge for a handle, or else the first edge. -/
def select? (handle : Option String) (edges : List Edge) : Option Edge :=
  (handle.bind fun handle => forHandle? handle edges) <|> edges.head?

/-- The edge for a handle; with no other edge in its place when `strict` is set. -/
def selectWith? (handle : Option String) (strict : Bool) (edges : List Edge) : Option Edge :=
  if strict then handle.bind fun handle => forHandle? handle edges else select? handle edges

def errorHandle : String := "error"

/-- The edges that do not leave from the handle of a failure. -/
def withoutError (edges : List Edge) : List Edge :=
  edges.filter fun edge => edge.sourceHandle != some errorHandle

end Edge

end ChatFlow

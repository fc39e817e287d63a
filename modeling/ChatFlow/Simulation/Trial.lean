import ChatFlow.Engine.Evaluation
import ChatFlow.Engine.Dispatch
import ChatFlow.Simulation.World
/-
Trials of single parts of the engine: one node is evaluated, or one effect carried out, in a world
of scripted services.
-/

namespace ChatFlow.Trial

open Schema Arguments

/-- The result of a trial, with the calls that it made. -/
structure TrialResult where
  outcome : Except Fault Value
  calls : List Value

/-- Where an evaluation stands when nothing else is said. -/
def defaultNow : Stamp := Stamp.ofParts ⟨2026, 3, 1⟩ 12 0 0 0

def context (arguments : Table Value) : Checked NodeContext :=
  NodeContext.mk "org_1" "conv_1" (some "session_1") "flow_1"
    <$> ((Codec.textTable.decode (.obj (ofPairs (items "variables" arguments)))).under
      (.name "variables"))
    <*> withDefault (.list Edge.codec) "edges" [] arguments
    <*> withDefault (.optional .text) "inbound_text" none arguments
    <*> withDefault .boolean "is_resume" false arguments
    <*> withDefault .stamp "now" defaultNow arguments

def services (arguments : Table Value) : Services :=
  let missing := items "missing" arguments
  { ai := !missing.contains (.str "ai")
    http := !missing.contains (.str "http")
    channel := !missing.contains (.str "channel") }

/-- The scripts of a trial; the history of a conversation is that of its channel. -/
def scripts (arguments : Table Value) : Scripts :=
  let channel := match Table.lookup? "channel" arguments with
    | some script => [("history", script)]
    | none => []
  Scripts.initial.change (arguments ++ channel)

def worldOf (now : Stamp) (arguments : Table Value) : World :=
  { World.atStart now with scripts := scripts arguments }

/-- Evaluates a node; a node that is given another kind, which nothing evaluates, has the result of
an unknown kind. -/
def evaluation (arguments : Table Value) (node : Node) (context : NodeContext) :
    Engine NodeResult :=
  match text? "unknown_type" arguments with
  | some kind =>
      if (ofWord? (α := NodeKind) kind).isSome then
        Evaluation.evaluate (services arguments) node context
      else return Evaluation.unknownKind context
  | none => Evaluation.evaluate (services arguments) node context

/-- Reads a node and its context and evaluates the node; the issues of the node come first. -/
def evaluate (arguments : Table Value) : Checked TrialResult :=
  (Node.decode (value "node" arguments)).andThen fun node =>
    (context arguments).map fun context =>
      let (outcome, world) :=
        (worldOf context.now arguments).run (evaluation arguments node context)
      ⟨outcome.map NodeResult.toValue, world.calls⟩

/-- Reads an effect and carries it out; no effect is never carried out. -/
def carryOut (arguments : Table Value) : Checked TrialResult :=
  let effect := value "effect" arguments
  if effect = .null then .accepted ⟨.ok (.bool false), []⟩
  else
    (Effect.decode effect).map fun effect =>
      let (outcome, world) :=
        (worldOf defaultNow arguments).run (effect.dispatch "org_1" "conv_1")
      ⟨outcome.map Value.bool, world.calls⟩

end ChatFlow.Trial

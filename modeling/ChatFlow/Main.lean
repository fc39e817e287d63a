import ChatFlow.Flow.Import
import ChatFlow.Simulation.World
/-
The command line: brings a flow from a file into an organization, whose flows are kept in memory,
and says what came of it.
-/

open ChatFlow

def usage : String :=
  "Usage: chatflow <organization_id> <flow.json>"

/-- The time at which flows are brought in; nothing that is said depends on it. -/
def importTime : Stamp := Stamp.ofParts ⟨1970, 1, 1⟩ 0 0 0 0

/-- Brings in the flow of a text and says what came of it. -/
def importReport (organization text : String) : Except String String :=
  match ((World.atStart importTime).run (FlowFile.bringIn organization text)).1 with
  | .ok flow => .ok (FlowFile.notice flow)
  | .error fault => .error fault.message

def main (arguments : List String) : IO UInt32 := do
  match arguments with
  | [organization, file] =>
      match importReport organization (← IO.FS.readFile file) with
      | .ok said =>
          IO.println said
          IO.println "\n[SUCCESS] Script completed successfully!"
          return 0
      | .error message =>
          IO.println ("\n[ERROR] Script failed with error: " ++ message)
          return 1
  | _ =>
      IO.println usage
      return 1

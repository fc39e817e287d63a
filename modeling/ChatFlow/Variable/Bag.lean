import ChatFlow.Table
import ChatFlow.Text.Case
/-
The variables of a session: names and texts in the order in which they were first set. A variable
is set under its exact name and read by its exact name first, then by the first name that differs
in case only.
-/

namespace ChatFlow

/-- A bag of variables. -/
abbrev Variables := Table String

namespace Variables

/-- The first variable whose name is the given one up to case. -/
def lookupAnyCase? (name : String) : Variables → Option String
  | [] => none
  | (key, value) :: rest =>
      if Text.lower key = Text.lower name then some value else lookupAnyCase? name rest

def resolve? (bag : Variables) (name : String) : Option String :=
  match Table.lookup? name bag with
  | some value => some value
  | none => lookupAnyCase? name bag

/-- The text a name stands for, empty when no variable has it. -/
def textOf (bag : Variables) (name : String) : String := (resolve? bag name).getD ""

end Variables

end ChatFlow

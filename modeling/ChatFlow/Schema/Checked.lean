import ChatFlow.Schema.Issue
/-
The outcome of reading a value: a result, or all the issues found. Independent parts are read side
by side, and the issues of each part are kept.
-/

namespace ChatFlow

/-- A result, or every issue that stands in its way. -/
inductive Checked (α : Type) where
  | accepted (value : α)
  | rejected (issues : List Issue)
  deriving Repr

namespace Checked

variable {α β : Type}

def reject (kind : IssueKind) : Checked α := .rejected [⟨kind, []⟩]

def map (change : α → β) : Checked α → Checked β
  | .accepted value => .accepted (change value)
  | .rejected issues => .rejected issues

/-- Reads two parts side by side. -/
def both (first : Checked (α → β)) (second : Checked α) : Checked β :=
  match first, second with
  | .accepted change, .accepted value => .accepted (change value)
  | .accepted _, .rejected issues => .rejected issues
  | .rejected issues, .accepted _ => .rejected issues
  | .rejected issues, .rejected more => .rejected (issues ++ more)

instance : Functor Checked where
  map := map

instance : Seq Checked where
  seq first second := both first (second ())

/-- The issues of a part, placed under the step that leads to it. -/
def under (step : PathStep) : Checked α → Checked α
  | .accepted value => .accepted value
  | .rejected issues => .rejected (issues.map (Issue.under step))

/-- Goes on with an accepted result. -/
def andThen (first : Checked α) (next : α → Checked β) : Checked β :=
  match first with
  | .accepted value => next value
  | .rejected issues => .rejected issues

def toOption : Checked α → Option α
  | .accepted value => some value
  | .rejected _ => none

end Checked

end ChatFlow

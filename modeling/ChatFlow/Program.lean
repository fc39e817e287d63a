import ChatFlow.Fault
/-
Programs over calls: what the engine does, as data. A program is done, fails, or makes a call and
goes on with the answer, which may itself be a failure. Nothing is said here about who answers; an
interpreter answers the calls one by one while it carries a state along.
-/

namespace ChatFlow

/-- A program that makes calls of a type, each with its own type of answer. -/
inductive Program {Call : Type} (Answer : Call → Type) (α : Type) : Type where
  | done (value : α)
  | fail (fault : Fault)
  | call (request : Call) (next : Except Fault (Answer request) → Program Answer α)

namespace Program

variable {Call : Type} {Answer : Call → Type} {α β σ : Type}

/-- Goes on with the result of a program; a failure ends both. -/
def andThen (next : α → Program Answer β) : Program Answer α → Program Answer β
  | .done value => next value
  | .fail fault => .fail fault
  | .call request rest => .call request fun answer => andThen next (rest answer)

instance : Monad (Program Answer) where
  pure := .done
  bind first next := andThen next first

/-- Makes one call; a failed answer is a failure. -/
def perform (request : Call) : Program Answer (Answer request) :=
  .call request fun answer =>
    match answer with
    | .ok value => .done value
    | .error fault => .fail fault

/-- The outcome of a program, a failure included, as its result. -/
def outcome : Program Answer α → Program Answer (Except Fault α)
  | .done value => .done (.ok value)
  | .fail fault => .done (.error fault)
  | .call request next => .call request fun answer => outcome (next answer)

def ofExcept : Except Fault α → Program Answer α
  | .ok value => .done value
  | .error fault => .fail fault

/-- Goes on with a failure where it is one that the handler takes. -/
def recover (handler : Fault → Option (Program Answer α)) (program : Program Answer α) :
    Program Answer α := do
  match ← outcome program with
  | .ok value => .done value
  | .error fault => (handler fault).getD (.fail fault)

/-- Runs a last program after another one, whether that fails or not. -/
def ensuring (last : Program Answer Unit) (program : Program Answer α) : Program Answer α := do
  let result ← outcome program
  last
  ofExcept result

def run (answer : (request : Call) → σ → Except Fault (Answer request) × σ) :
    Program Answer α → σ → Except Fault α × σ
  | .done value, state => (.ok value, state)
  | .fail fault, state => (.error fault, state)
  | .call request next, state =>
      let (reply, later) := answer request state
      run answer (next reply) later

end Program

end ChatFlow

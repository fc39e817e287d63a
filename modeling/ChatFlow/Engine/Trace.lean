import ChatFlow.Engine.Call
/-
The trace of an event: log rows that are written together when the event is over.
-/

namespace ChatFlow

/-- What the rows of a trace are about. -/
structure TraceSubject where
  organization : String
  conversation : String
  flow : String
  session : Option String
  deriving DecidableEq, Repr

namespace TraceSubject

def ofSession (session : Session) : TraceSubject where
  organization := session.organization
  conversation := session.conversation
  flow := session.flow
  session := session.id

/-- A row with nothing but its kind. -/
def row (subject : TraceSubject) (now : Stamp) (kind : LogKind) : LogEntry where
  id := none
  organization := subject.organization
  conversation := subject.conversation
  session := subject.session
  flow := subject.flow
  kind := kind
  node := none
  nodeType := none
  fromNode := none
  toNode := none
  handle := none
  step := none
  message := none
  bag := none
  createdAt := now

end TraceSubject

/-- Writes the rows of a trace; that they cannot be written is no failure of the event. -/
def Engine.flush (rows : List LogEntry) : Engine Unit :=
  if rows.isEmpty then return ()
  else do discard (Program.outcome (Engine.store (.saveLogs rows)))

end ChatFlow

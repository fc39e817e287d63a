import ChatFlow.Service.Posting
/-
The history of a conversation, as the messaging service tells it.
-/

namespace ChatFlow.History

/-- The items of a value that is gone through: members of an object by name, characters of a
text. -/
def itemsOf : Value → Except Fault (List Value)
  | .arr items => .ok items
  | .obj members => .ok (members.map fun member => .str member.1)
  | .str text => .ok (text.toList.map fun character => .str (String.singleton character))
  | _ => .error .wrongKind

/-- A turn of a conversation: who spoke, and what. A message without content is no turn. -/
def turn? : Value → Except Fault (Option Value)
  | .obj message =>
      let content := Shape.member "content" message
      let role := if (Shape.member "from_me" message).isTruthy then "assistant" else "user"
      if content.isTruthy then .ok (some (.obj [("role", .str role), ("content", content)]))
      else .ok none
  | _ => .error .notARecord

/-- The last turns up to a limit; a negative limit leaves out as many turns at the start. -/
def lastTurns (limit : Int) (turns : List Value) : List Value :=
  if limit = 0 then []
  else if 0 < limit then turns.drop (turns.length - limit.toNat)
  else turns.drop limit.natAbs

/-- The turns that a reply tells of, oldest first. -/
def turns (limit : Int) (reply : Value) : Except Fault (List Value) :=
  match reply with
  | .obj members => do
      let messages ← match Table.lookup? "messages" members with
        | none => pure []
        | some messages => itemsOf messages
      return lastTurns limit ((← messages.mapM turn?).filterMap id)
  | _ => .error .notARecord

/-- Asks for the last turns of a conversation. -/
def get (base : String) (timeout : Value) (conversation : String) (limit : Int) :
    Exchange (List Value) := do
  let reply ← Exchange.reporting "Timeout fetching conversation history"
    "Error fetching conversation history"
    (Exchange.request timeout "GET" (base ++ "/conversation/" ++ conversation ++ "/history")
      [("limit", toString limit)] [] .none)
  if reply.statusCode ≠ 200 then
    Exchange.failure ("Channel service history returned " ++ toString reply.statusCode)
  else
    let told ← Program.ofExcept reply.json
    Program.ofExcept (turns limit told)

end ChatFlow.History

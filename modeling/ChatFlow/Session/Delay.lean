import ChatFlow.Schema.Codec
/-
Timer jobs: a delay row says when a session that waits at a delay node is to go on.
-/

namespace ChatFlow

open Schema

structure Delay where
  id : Option String
  conversation : String
  session : String
  flow : String
  node : String
  resumeAt : Stamp
  processed : Bool
  processedAt : Option Stamp
  createdAt : Stamp
  deriving DecidableEq, Repr

namespace Delay

def ofMembers (now : Stamp) (members : Table Value) : Checked Delay :=
  mk <$> withDefault (.optional .text) "id" none members
    <*> required .text "conversation_id" members
    <*> required .text "session_id" members
    <*> required .text "flow_id" members
    <*> required .text "node_id" members
    <*> required .stamp "resume_at" members
    <*> withDefault .boolean "processed" false members
    <*> withDefault (.optional .stamp) "processed_at" none members
    <*> withDefault .stamp "created_at" now members

def decode (now : Stamp) : Value → Checked Delay := decodeRecord .notRecord (ofMembers now)

def documentMembers (delay : Delay) : Table Value :=
  [("conversation_id", .str delay.conversation), ("session_id", .str delay.session),
    ("flow_id", .str delay.flow), ("node_id", .str delay.node),
    ("resume_at", .stamp delay.resumeAt), ("processed", .bool delay.processed),
    ("processed_at", .ofStamp? delay.processedAt), ("created_at", .stamp delay.createdAt)]

def toMembers (delay : Delay) : Table Value := ("id", .ofText? delay.id) :: delay.documentMembers

def toValue (delay : Delay) : Value := .obj delay.toMembers

end Delay

end ChatFlow

import ChatFlow.Engine.Call
import ChatFlow.Net.Exchange
/-
Requests to any address, as flows make them.
-/

namespace ChatFlow.Outbound

/-- What a request with some content carries: objects and lists as JSON, other values as text. A
request that only asks carries nothing. -/
def body (method : String) (content : Value) : Body :=
  if method = "GET" then .none
  else
    match content with
    | .null | .str "" => .none
    | .obj _ | .arr _ => .json content
    | content => .text content.spoken

/-- Makes a request. Every status is an answer; a request that cannot be put together, or a service
that is not reached, is a failure. -/
def call (method url : String) (headers : Table Value) (content timeout : Value) :
    Exchange HttpAnswer := do
  let invalid : Option (Exchange WireReply) :=
    some (.fail (.external ⟨"Invalid request to " ++ url ++ ":", false, 400⟩))
  let reply ← (Exchange.reporting ("Timeout calling " ++ url) ("Error calling " ++ url)
    (Exchange.request timeout method url [] headers (body method content))).recover fun fault =>
      match fault with
      | .invalidAddress | .unencodable | .unreadableNumeral => invalid
      | _ => none
  return {
    statusCode := reply.statusCode
    body := reply.text
    json := match reply.json with
      | .ok value => value
      | .error _ => .null }

end ChatFlow.Outbound

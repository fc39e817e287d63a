import ChatFlow.Service.Posting
/-
Completions by a language model behind an endpoint for chats.
-/

namespace ChatFlow

/-- How the language model is reached. -/
structure ModelAccess where
  url : Value
  key : Value
  model : Value
  timeout : Value
  deriving DecidableEq, Repr

namespace ModelAccess

def ofConfiguration (configuration : Configuration) : Except Fault ModelAccess := do
  return {
    url := ← configuration.get "AI_API_URL"
    key := ← configuration.get "AI_API_KEY"
    model := ← configuration.get "AI_DEFAULT_MODEL"
    timeout := .real (← configuration.getReal "AI_TIMEOUT_SECONDS") }

end ModelAccess

namespace Completion

def first? : Value → Option Value
  | .arr (first :: _) => some first
  | _ => none

/-- The content of the first choice in a reply. -/
def content? (reply : Value) : Option Value := do
  let choice ← first? (← reply.get? "choices")
  (← choice.get? "message").get? "content"

/-- The text that a reply gives, without blanks at its ends; content that counts as absent is the
empty text. -/
def textOf (content : Value) : Except Fault String :=
  match Shape.orElse content (.str "") with
  | .str text => .ok (Text.trim text)
  | _ => .error .notARecord

/-- The fault of a reply that is not of the form of a completion. -/
def unexpected {α : Type} : Exchange α := Exchange.failure "Unexpected AI provider response:"

def complete (access : ModelAccess) (messages model temperature timeout : Value) :
    Exchange String :=
  if !access.key.isTruthy then Exchange.failure "AI provider is not configured"
  else do
    let url ← match access.url with
      | .str url => pure url
      | _ => .fail .wrongKind
    let payload := .obj [("model", Shape.orElse model access.model), ("messages", messages),
      ("temperature", temperature)]
    let headers := [("Authorization", .str ("Bearer " ++ access.key.spoken)),
      ("Content-Type", .str "application/json")]
    let reply ← Exchange.reporting "AI provider timeout" "AI provider error"
      (Exchange.request (Shape.orElse timeout access.timeout) "POST" url [] headers
        (.json payload))
    if reply.statusCode ≠ 200 then
      Exchange.failure ("AI provider returned " ++ toString reply.statusCode)
    else
      match reply.json with
      | .error _ => unexpected
      | .ok told =>
          match content? told with
          | some content => Program.ofExcept (textOf content)
          | none => unexpected

end Completion

end ChatFlow

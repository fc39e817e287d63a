import ChatFlow.Engine.Call
/-
Carrying out effects. Each effect is one delivery; a delivery that fails is reported and stops
nothing. Outbound requests have been made when their node was evaluated, so that their effect only
repeats how they went.
-/

namespace ChatFlow.Effect

def delivery? (organization conversation : String) : Effect → Option Delivery
  | .sendMessage kind text mediaUrl _ => some (.sendMessage conversation text kind mediaUrl)
  | .sendTyping seconds => some (.sendTyping conversation seconds)
  | .callWebhook .. => none
  | .createTask title description dueInDays =>
      some (.createTask organization conversation title description dueInDays)
  | .notify .whatsapp recipient message =>
      some (.sendExternal conversation (recipient.getD "") message)
  | .notify .users _ message => some (.notifyUsers organization conversation message)
  | .sendEmail recipient subject html => some (.sendEmail organization recipient subject html)
  | .setTag tag true => some (.addTag organization conversation tag)
  | .setTag tag false => some (.removeTag organization conversation tag)
  | .transfer kind target => some (.transfer conversation kind target)
  | .closeConversation => some (.close conversation)

/-- How long to wait before a delivery. -/
def pause? : Effect → Option Binary64
  | .sendMessage _ _ _ seconds => if (Binary64.ofInt 0).lt seconds then some seconds else none
  | _ => none

def wentWell : Effect → Bool
  | .callWebhook _ _ _ success _ => success
  | _ => true

/-- Carries out an effect, and says whether it went well. -/
def dispatch (organization conversation : String) (effect : Effect) : Engine Bool :=
  match effect.delivery? organization conversation with
  | none => return effect.wentWell
  | some delivery => do
      let attempt : Engine Unit := do
        match effect.pause? with
        | some seconds => Engine.sleep seconds
        | none => pure ()
        Engine.deliver delivery
      match ← Program.outcome attempt with
      | .ok () => return true
      | .error _ => return false

/-- Carries out effects in order. -/
def dispatchAll (organization conversation : String) : List Effect → Engine Unit
  | [] => return ()
  | effect :: rest => do
      discard (dispatch organization conversation effect)
      dispatchAll organization conversation rest

end ChatFlow.Effect

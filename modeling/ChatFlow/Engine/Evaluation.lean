import ChatFlow.Engine.Call
import ChatFlow.Engine.Condition
import ChatFlow.Engine.ResponsePath
import ChatFlow.Graph.Selection
import ChatFlow.Json.Reader
import ChatFlow.Reply.Menu
/-
Evaluating one node. An evaluation reads the content of the node and the context of the session, and
gives the effects to apply, the next decision and the variables afterwards. It calls the language
model, the history of the conversation and outbound HTTP, because their answers decide where the
session goes; it writes nothing.
-/

namespace ChatFlow

/-- What an evaluation may read. -/
structure NodeContext where
  organization : String
  conversation : String
  session : Option String
  flow : String
  bag : Variables
  edges : List Edge
  inboundText : Option String
  isResume : Bool
  now : Stamp
  deriving DecidableEq, Repr

/-- Which of the services that evaluations call are there. -/
structure Services where
  ai : Bool
  http : Bool
  channel : Bool
  deriving DecidableEq, Repr

def Services.all : Services := ⟨true, true, true⟩

namespace Evaluation

open Text Interpolation

/-! ### Words said to contacts -/

def defaultMenuPrompt : String := "Selecione uma opção:"

def defaultMenuInvalid : String :=
  "Opção inválida. Responda com o número ou o nome de uma das opções."

def defaultInputPrompt : String := "Digite sua resposta:"

def defaultInputError : InputForm → String
  | .email => "Por favor, informe um e-mail válido."
  | .phone => "Por favor, informe um telefone válido com DDD."
  | .number => "Por favor, informe apenas números."
  | .cpf => "Por favor, informe um CPF válido."
  | .date => "Por favor, informe uma data válida (DD/MM/AAAA)."
  | .text => "Por favor, digite uma resposta."

def trueHandles : List String := ["true", "yes", "sim"]

def falseHandles : List String := ["false", "no", "nao", "não"]

def fallbackHandles : List String := ["fallback", "default"]

/-- Seconds between two images of a gallery. -/
def galleryDelay : Binary64 := Binary64.ofRatio false 3 2

/-! ### Common results -/

/-- A text that is there and not empty. -/
def given? (text : Option String) : Option String :=
  text.bind fun text => if text.isEmpty then none else some text

/-- The first of two texts that is there and not empty. -/
def givenOr (text : Option String) (otherwise : String) : String := (given? text).getD otherwise

/-- Leaves a node by an edge, or ends the flow where there is none. The handle followed is the
edge's own, or else the one asked for. -/
def leaveBy (edge : Option Edge) (handle : Option String) (bag : Variables)
    (effects : List Effect) : NodeResult :=
  match edge with
  | some edge => ⟨effects, .advance edge.target (given? edge.sourceHandle <|> handle), bag⟩
  | none => ⟨effects, .terminate .completed "no_outgoing_edge", bag⟩

/-- Leaves a node by the edge selected for a handle. -/
def advance (edges : List Edge) (bag : Variables) (effects : List Effect)
    (handle : Option String) : NodeResult :=
  leaveBy (Edge.select? handle edges) handle bag effects

/-- The first of some handles that an edge is found for, with the edge. -/
def firstHandle? (handles : List String) (edges : List Edge) : Option (String × Edge) :=
  handles.findSome? fun handle => (Edge.forHandle? handle edges).map fun edge => (handle, edge)

/-! ### Messages -/

/-- The images of a gallery, the caption on the first. -/
def galleryEffects (content : MessageContent) (bag : Variables) : List Effect :=
  content.galleryImages.zipIdx.map fun (image, index) =>
    if index = 0 then
      let caption := match given? content.caption with
        | some caption => some caption
        | none => image.caption
      .sendMessage .image (some (interpolate? bag caption)) (some image.url)
        (Binary64.ofInt 0)
    else .sendMessage .image (some "") (some image.url) galleryDelay

/-- The kind of a single captioned file, if the media is one. -/
def captionedKind? : MediaType → Option MessageKind
  | .image => some .image
  | .video => some .video
  | .document => some .document
  | _ => none

/-- The message proper of a message node: its gallery, its file, or its text. -/
def bodyEffects (content : MessageContent) (bag : Variables) : List Effect :=
  let textEffects := match given? content.text with
    | some text => [Effect.message (interpolate bag text)]
    | none => []
  if content.mediaType = .gallery && !content.galleryImages.isEmpty then
    galleryEffects content bag
  else match given? content.mediaUrl with
    | none => textEffects
    | some url =>
        match captionedKind? content.mediaType with
        | some kind =>
            [.sendMessage kind (some (interpolate? bag content.caption)) (some url)
              (Binary64.ofInt 0)]
        | none =>
            if content.mediaType = .audio then
              [.sendMessage .audio (some "") (some url) (Binary64.ofInt 0)]
            else textEffects

def evaluateMessage (content : MessageContent) (context : NodeContext) : NodeResult :=
  let typing := if content.typing then [Effect.sendTyping (Binary64.ofInt 3)] else []
  advance context.edges context.bag (typing ++ bodyEffects content context.bag) none

/-! ### Menus -/

def numberText (number : Nat) : String := String.ofList (Nat.toDigits 10 number)

/-- A line of a menu. An option without a label shows its value; without a value, `None`. -/
def optionLine (entry : MenuOption × Nat) : String :=
  let shown := if entry.1.label.isEmpty then entry.1.value.getD "None" else entry.1.label
  numberText (entry.2 + 1) ++ ". " ++ shown

/-- A prompt with the numbered options below it. -/
def menuText (prompt : String) (options : List MenuOption) : String :=
  if options.isEmpty then prompt
  else prompt ++ "\n\n" ++ "\n".intercalate (options.zipIdx.map optionLine)

/-- The variable that counts the invalid replies to a menu. -/
def attemptsKey (node : String) : String := "__menu_attempts__" ++ node

/-- The invalid replies counted so far; an absent or empty counter is zero. -/
def attemptsSoFar (bag : Variables) (key : String) : Except Fault Int :=
  match Table.lookup? key bag with
  | none => .ok 0
  | some text =>
      if text.isEmpty then .ok 0
      else match Number.readInt? text.toList with
        | some count => .ok count
        | none => .error .unreadableNumeral

/-- Leaves a menu by the option chosen: by the handle of its identifier, of its position or of its
value, or else by an edge without a handle. -/
def leaveMenu (index : Nat) (option : MenuOption) (edges : List Edge) (bag : Variables) :
    NodeResult :=
  let names := [some option.id, some ("option_" ++ numberText index), option.value]
  let handles := names.filterMap given?
  match firstHandle? handles edges with
  | some (handle, edge) => leaveBy (some edge) (some handle) bag []
  | none => advance (edges.filter fun edge => (given? edge.sourceHandle).isNone) bag [] none

/-- The variables after a reply that chose an option. -/
def menuVariables (content : MenuContent) (key : String) (option : MenuOption)
    (bag : Variables) : Variables :=
  let cleared := Table.remove key bag
  match given? content.variableName with
  | some name => Table.put name (givenOr (some option.label) (option.value.getD "")) cleared
  | none => cleared

/-- The result of a reply that chose no option, when some replies were invalid before. -/
def rejectReply (content : MenuContent) (key : String) (before : Int) (context : NodeContext) :
    NodeResult :=
  let attempts := before + 1
  if attempts ≥ content.maxAttempts then
    let bag := Table.remove key context.bag
    match firstHandle? fallbackHandles context.edges with
    | some (handle, edge) => ⟨[], .advance edge.target (some handle), bag⟩
    | none => ⟨[], .terminate .failed "menu_max_attempts", bag⟩
  else
    let bag := Table.put key (String.ofList (Json.intText attempts)) context.bag
    let said := givenOr (some (interpolate? bag content.invalidMessage))
      (menuText defaultMenuInvalid content.options)
    ⟨[Effect.message said], .awaitInput .menu, bag⟩

def evaluateMenu (node : String) (content : MenuContent) (context : NodeContext) :
    Except Fault NodeResult :=
  let key := attemptsKey node
  if !context.isResume then
    let prompt := interpolate context.bag (givenOr content.text defaultMenuPrompt)
    .ok ⟨[Effect.message (menuText prompt content.options)], .awaitInput .menu, context.bag⟩
  else do
    match ← Reply.matchOption context.inboundText content.options with
    | some (index, option) =>
        .ok (leaveMenu index option context.edges
          (menuVariables content key option context.bag))
    | none => .ok (rejectReply content key (← attemptsSoFar context.bag key) context)

/-! ### Inputs -/

def evaluateInput (content : InputContent) (context : NodeContext) : NodeResult :=
  let bag := context.bag
  if !context.isResume then
    let prompt := interpolate bag (givenOr content.text defaultInputPrompt)
    ⟨[Effect.message prompt], .awaitInput .text, bag⟩
  else
    let reply := trim (context.inboundText.getD "")
    if reply.isEmpty && !content.required then
      advance context.edges (Table.put content.variableName "" bag) [] none
    else if Reply.isValid (some reply) content.form then
      advance context.edges (Table.put content.variableName reply bag) [] none
    else
      let said := givenOr (some (interpolate? bag content.errorMessage))
        (defaultInputError content.form)
      ⟨[Effect.message said], .awaitInput .text, bag⟩

/-! ### Conditions -/

def evaluateCondition (content : ConditionContent) (context : NodeContext) : NodeResult :=
  let handles := if Condition.holds context.bag content then trueHandles else falseHandles
  match firstHandle? handles context.edges with
  | some (handle, edge) => ⟨[], .advance edge.target (some handle), context.bag⟩
  | none => ⟨[], .terminate .completed "no_outgoing_edge", context.bag⟩

/-! ### Actions -/

/-- The effects of an action, the closing of a conversation apart. -/
def actionEffects (name : Option String) (content : ActionContent) (bag : Variables) :
    List Effect :=
  let say := interpolate? bag
  match content.kind with
  | .addTag => (given? content.tagId).toList.map fun tag => .setTag tag true
  | .removeTag => (given? content.tagId).toList.map fun tag => .setTag tag false
  | .sendEmail =>
      (given? (some (trim (say content.emailTo)))).toList.map fun recipient =>
        .sendEmail recipient (say content.emailSubject) (say content.emailBody)
  | .notify => [.notify .users none (say content.notificationMessage)]
  | .notifyExternal =>
      let phone := trim (say content.phoneNumber)
      let message := say content.externalMessage
      if phone.isEmpty || message.isEmpty then [] else [.notify .whatsapp (some phone) message]
  | .createTask =>
      let title := givenOr (some (say content.taskTitle)) (givenOr name "Tarefa do fluxo")
      [.createTask title (some (say content.taskDescription)) content.taskDueInDays]
  | .setVariable | .closeConversation => []

def evaluateAction (name : Option String) (content : ActionContent) (context : NodeContext) :
    NodeResult :=
  let bag := context.bag
  match content.kind with
  | .closeConversation =>
      ⟨[.closeConversation], .terminate .completed "conversation_closed", bag⟩
  | .setVariable =>
      let assigned := match given? content.variableName with
        | some written => Table.put written (interpolate? bag content.variableValue) bag
        | none => bag
      advance context.edges assigned [] none
  | _ => advance context.edges bag (actionEffects name content bag) none

/-! ### Transfers -/

def evaluateTransfer (content : TransferContent) (context : NodeContext) : NodeResult :=
  let said := (given? content.message).toList.map fun message =>
    Effect.message (interpolate context.bag message)
  let effects := said ++ [.transfer content.kind (some content.targetId)]
  if content.endFlow then ⟨effects, .terminate .completed "transferred", context.bag⟩
  else advance context.edges context.bag effects none

/-! ### Answers by a language model -/

/-- A message of a conversation with a language model. -/
def chatMessage (role content : String) : Value :=
  .obj [("role", .str role), ("content", .str content)]

/-- The variables that a language model is told of, a line each: those with a text whose names do
not start with two low lines. -/
def knownVariables (bag : Variables) : String :=
  let told := bag.filter fun entry =>
    !startsWith ['_', '_'] entry.1.toList && !entry.2.isEmpty
  "\n".intercalate (told.map fun entry => "- " ++ entry.1 ++ ": " ++ entry.2)

/-- The instructions for a language model, with the known variables. -/
def systemPrompt (content : AiContent) (bag : Variables) : String :=
  let prompt := interpolate? bag content.systemPrompt
  let known := knownVariables bag
  if known.isEmpty then prompt else trim (prompt ++ "\n\nKnown variables:\n" ++ known)

/-- Leaves a node whose call failed: by the edge of failures, or not at all. -/
def aiFailure (context : NodeContext) : NodeResult :=
  match Edge.forHandle? Edge.errorHandle context.edges with
  | some edge => ⟨[], .advance edge.target (some Edge.errorHandle), context.bag⟩
  | none => ⟨[], .terminate .failed "ai_error", context.bag⟩

/-- Takes the failure of an outside service as `none`; other failures stay failures. -/
def unlessExternal {α : Type} (program : Engine α) : Engine (Except ExternalFailure α) := do
  match ← Program.outcome program with
  | .ok value => return .ok value
  | .error (.external failure) => return .error failure
  | .error fault => .fail fault

/-- The turns of a conversation that are shown to a language model. -/
def historyTurns (services : Services) (content : AiContent) (conversation : String) :
    Engine (List Value) :=
  if content.includeHistory && content.historyLimit > 0 && services.channel then do
    match ← unlessExternal (Engine.history conversation content.historyLimit) with
    | .ok turns => return turns
    | .error _ => return []
  else return []

/-- Takes the reply of a language model, which has to be a text. -/
def takeReply (content : AiContent) (reply : Value) (context : NodeContext) :
    Except Fault NodeResult :=
  let written := givenOr content.saveToVariable "resposta_ia"
  match reply with
  | .str text =>
      let effects := if content.sendReply && !text.isEmpty then [Effect.message text] else []
      .ok (advance (Edge.withoutError context.edges) (Table.put written text context.bag)
        effects (some "success"))
  | reply =>
      if content.sendReply && reply.isTruthy then
        .error (.invalidData [⟨.notText, [.name "text"]⟩])
      else .error (.invalidData [⟨.notText, [.name "variables", .name written]⟩])

def evaluateAi (services : Services) (content : AiContent) (context : NodeContext) :
    Engine NodeResult :=
  if !services.ai then return aiFailure context
  else do
    let prompt := systemPrompt content context.bag
    let instructions := if prompt.isEmpty then [] else [chatMessage "system" prompt]
    let turns ← historyTurns services content context.conversation
    let asked := (given? context.inboundText).toList.map (chatMessage "user")
    match ← unlessExternal (Engine.complete
        ⟨instructions ++ turns ++ asked, given? content.model, content.temperature⟩) with
    | .error _ => return aiFailure context
    | .ok reply => Program.ofExcept (takeReply content reply context)

/-! ### Delays -/

def evaluateDelay (content : DelayContent) (context : NodeContext) : Except Fault NodeResult :=
  if context.isResume then .ok (advance context.edges context.bag [] none)
  else
    let seconds := content.totalSeconds
    let typingSeconds := if seconds = 0 then 1 else min seconds 3
    let effects := if content.typing then [Effect.sendTyping (Binary64.ofInt typingSeconds)] else []
    match context.now.addSeconds? seconds with
    | some resumeAt => .ok ⟨effects, .suspend resumeAt, context.bag⟩
    | none => .error .stampOutOfRange

/-! ### Outbound requests -/

/-- The headers of a request, placeholders replaced; headers without a name are left out. -/
def requestHeaders (content : WebhookContent) (bag : Variables) : Table String :=
  Table.ofSettings ((content.headers.filter fun header => !header.key.isEmpty).map fun header =>
    (interpolate bag header.key, interpolate? bag header.value))

/-- The body of a request: a template that is JSON is filled in value by value, any other as a
text. -/
def requestBody (content : WebhookContent) (bag : Variables) : Value :=
  match given? content.body with
  | none => .null
  | some template =>
      match Json.ofText template with
      | .ok value => interpolateValue bag value
      | .error _ => .str (interpolate bag template)

/-- What came of a request: the status code if there was an answer, and the answer if it succeeded
or the error if it did not. -/
structure RequestOutcome where
  statusCode : Option Int
  result : Except String HttpAnswer

def sendRequest (services : Services) (content : WebhookContent) (url : String)
    (context : NodeContext) : Engine RequestOutcome :=
  if url.isEmpty then return ⟨none, .error "Webhook URL is empty"⟩
  else if !services.http then return ⟨none, .error "HTTP collaborator is not configured"⟩
  else do
    match ← unlessExternal (Engine.http
        { method := content.method
          url
          headers := requestHeaders content context.bag
          body := requestBody content context.bag
          timeout := content.timeout }) with
    | .error failure => return ⟨none, .error failure.message⟩
    | .ok answer =>
        if answer.isOk then return ⟨some answer.statusCode, .ok answer⟩
        else
          return ⟨some answer.statusCode,
            .error ("HTTP " ++ String.ofList (Json.intText answer.statusCode))⟩

def evaluateWebhook (services : Services) (content : WebhookContent) (context : NodeContext) :
    Engine NodeResult := do
  let url := trim (interpolate context.bag content.url)
  let outcome ← sendRequest services content url context
  let audit (error : Option String) : List Effect :=
    [.callWebhook (wordOf content.method) url outcome.statusCode error.isNone error]
  match outcome.result with
  | .ok answer =>
      let bag ← match given? content.responseVariable with
        | none => pure context.bag
        | some name => do
            let text ← Program.ofExcept
              (ResponsePath.extract answer.body answer.json content.responsePath)
            pure (Table.put name text context.bag)
      return advance (Edge.withoutError context.edges) bag (audit none) (some "success")
  | .error error =>
      let effects := audit (some error)
      if !content.continueOnError then
        return ⟨effects, .terminate .failed "webhook_error", context.bag⟩
      else match Edge.forHandle? Edge.errorHandle context.edges with
        | some edge =>
            return ⟨effects, .advance edge.target (some Edge.errorHandle), context.bag⟩
        | none =>
            return advance (Edge.withoutError context.edges) context.bag effects
              (some "success")

/-! ### Any node -/

/-- The result for a node of a kind that nothing evaluates. -/
def unknownKind (context : NodeContext) : NodeResult :=
  ⟨[], .terminate .failed "unknown_node_type", context.bag⟩

def evaluate (services : Services) (node : Node) (context : NodeContext) : Engine NodeResult :=
  match node.content with
  | .start _ => return advance context.edges context.bag [] none
  | .message content => return evaluateMessage content context
  | .menu content => Program.ofExcept (evaluateMenu node.id content context)
  | .input content => return evaluateInput content context
  | .condition content => return evaluateCondition content context
  | .action content => return evaluateAction node.name content context
  | .transfer content => return evaluateTransfer content context
  | .aiResponse content => evaluateAi services content context
  | .delay content => Program.ofExcept (evaluateDelay content context)
  | .webhook content => evaluateWebhook services content context
  | .finish _ => return ⟨[], .terminate .completed "flow_end", context.bag⟩

end Evaluation

end ChatFlow

import ChatFlow.Graph.Content
import ChatFlow.Reply.Format
import ChatFlow.Text.Case
import ChatFlow.Fault
/-
Matching a reply with the options of a menu, and checking it against the form that an input node
asks for.
-/

namespace ChatFlow.Reply

open Text

/-- The first option that satisfies a test, with its position. -/
def findOption (test : MenuOption → Bool) (options : List MenuOption) : Option (Nat × MenuOption) :=
  (options.zipIdx.find? fun entry => test entry.1).map fun entry => (entry.2, entry.1)

def byValue? (reply : List Char) (options : List MenuOption) : Option (Nat × MenuOption) :=
  findOption (fun option => match option.value with
    | some value => !value.isEmpty && reply == trimBlanks value.toList
    | none => false) options

/-- The option whose number, counted from one, is given. -/
def byNumber? (number : Nat) (options : List MenuOption) : Option (Nat × MenuOption) :=
  if number = 0 then none else options[number - 1]?.map fun option => (number - 1, option)

/-- The option whose label is the reply up to case. -/
def byLabel? (reply : List Char) (options : List MenuOption) : Option (Nat × MenuOption) :=
  findOption (fun option =>
    !option.label.isEmpty && lowerChars reply == lowerChars (trimBlanks option.label.toList))
    options

/-- The option that a reply chooses: by its value, by its number, or by its label. A reply of more
decimal digits than a numeral may have is a fault. -/
def matchOption (reply : Option String) (options : List MenuOption) :
    Except Fault (Option (Nat × MenuOption)) :=
  let trimmed := trimBlanks (reply.getD "").toList
  if trimmed.isEmpty || options.isEmpty then .ok none
  else match byValue? trimmed options with
    | some found => .ok (some found)
    | none =>
        if isDecimal trimmed then
          if trimmed.length > maxNumeralDigits then .error .unreadableNumeral
          else .ok (byNumber? (digitsValue trimmed) options <|> byLabel? trimmed options)
        else .ok (byLabel? trimmed options)

/-- Whether characters have a form, without trimming. -/
def hasForm (form : InputForm) (characters : List Char) : Bool :=
  match form with
  | .email => isEmail characters
  | .phone => isPhone characters
  | .number => isNumber characters
  | .cpf => isTaxpayerNumber characters
  | .date => isDate characters
  | .text => true

/-- Whether a reply, trimmed, has a form; an empty reply has none. -/
def isValid (reply : Option String) (form : InputForm) : Bool :=
  let trimmed := trimBlanks (reply.getD "").toList
  !trimmed.isEmpty && hasForm form trimmed

end ChatFlow.Reply

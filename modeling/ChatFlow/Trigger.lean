import ChatFlow.Engine.Call
import ChatFlow.Pattern.Match
import ChatFlow.Text.Search
/-
Triggers: which flow a message starts. The candidates of an organization are tried in order, and the
first one that runs on the connection and has a keyword matching the message wins.
-/

namespace ChatFlow.Trigger

open Text

/-- Whether a pattern, up to case, stands somewhere in a text. A text that is no pattern matches
nothing. -/
def patternMatches (pattern text : List Char) : Except Fault Bool :=
  match Pattern.read pattern with
  | .ok pattern => .ok (pattern.occursIn text)
  | .error .refused => .ok false
  | .error .repetitionTooLarge => .error .repetitionTooLarge
  | .error .unreadable => .error .unreadableNumeral

/-- Whether a keyword, trimmed, matches a text. An empty keyword matches nothing; case is ignored in
every mode. -/
def keywordMatches (keyword : Option String) (text : String) (mode : MatchMode) :
    Except Fault Bool :=
  let keyword := trimBlanks (keyword.getD "").toList
  let small := lowerChars keyword
  let smallText := lowerChars text.toList
  if keyword.isEmpty then .ok false
  else match mode with
    | .regex => patternMatches keyword text.toList
    | .contains => .ok (Text.occursIn small smallText)
    | .startsWith => .ok (Text.startsWith small smallText)
    | .exact => .ok (smallText == small)

/-- Whether one of some keywords matches a text; the first one that does ends the search. -/
def anyMatches (mode : MatchMode) (text : String) : List String → Except Fault Bool
  | [] => .ok false
  | keyword :: rest =>
      match keywordMatches (some keyword) text mode with
      | .ok false => anyMatches mode text rest
      | decided => decided

def matchesText (flow : Flow) (text : String) : Except Fault Bool :=
  anyMatches flow.matchMode text flow.keywords

/-- The first of some flows that runs on a connection and has a matching keyword. -/
def first? (connection : Option String) (text : String) : List Flow → Except Fault (Option Flow)
  | [] => .ok none
  | flow :: rest =>
      if flow.acceptsConnection connection then
        match matchesText flow text with
        | .ok true => .ok (some flow)
        | .ok false => first? connection text rest
        | .error fault => .error fault
      else first? connection text rest

/-- The flow that a message starts; a blank message starts none. -/
def flowFor (organization : String) (connection : Option String) (text : Option String) :
    Engine (Option Flow) := do
  let text := trim (text.getD "")
  if text.isEmpty then return none
  else
    let candidates ← Engine.store (.triggerCandidates organization)
    Program.ofExcept (first? connection text candidates)

end ChatFlow.Trigger

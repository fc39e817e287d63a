import ChatFlow.Json.Printer
import ChatFlow.Net.Address
import ChatFlow.Simulation.World
import ChatFlow.Web.Endpoint
/-
The site in a simulated world: requests are made one after the other, each with scripts of its own.
-/

namespace ChatFlow

/-- A response, with the calls that were made to services. -/
structure SiteResult where
  response : Web.Response
  calls : List Value

namespace Site

open Arguments Text Web

/-! ### Requests -/

/-- The text of coded characters. -/
def decoded (coded : List Char) : String :=
  String.ofList (Charset.utf8.readLeniently (percentDecode coded))

/-- The pairs of a coded query; of two with one name the later one counts. -/
def queryTable (query : List Char) : Table String :=
  let pieces := (splitWhere (· == '&') query).filter fun piece => !piece.isEmpty
  let blank (character : Char) : Char := if character == '+' then ' ' else character
  Table.ofSettings (pieces.map fun piece =>
    let (name, rest) := (piece.map blank).span (· != '=')
    (decoded name, decoded (rest.drop 1)))

/-- The address of a path, which stands under the root of the site. -/
def address? (path : String) : Option Address := do
  let given ← Address.read? path
  let steps := given.path.toList.dropWhile (· == '/')
  let query := (given.query.map ("?" ++ ·)).getD ""
  Address.read? ("http://site/" ++ String.ofList steps ++ query)

/-- The headers of a request; a body counts as JSON unless they say otherwise. -/
def headers (arguments : Table Value) (hasBody : Bool) : Table String :=
  let given := (members "headers" arguments).map fun header =>
    (String.ofList (header.1.toList.map Number.asciiLower), header.2.spoken)
  if hasBody && !Table.has "content-type" given then
    Table.put "content-type" "application/json" given
  else given

/-- The bytes of a request: a text as it is, or a value as JSON; null stands for no body. -/
def body? (arguments : Table Value) : Option (List UInt8) :=
  match text? "raw" arguments with
  | some text => some (utf8Bytes text)
  | none =>
      match value "json" arguments with
      | .null => none
      | value => some (utf8Bytes (String.ofList (Json.print .compact value)))

def request? (arguments : Table Value) : Option Request := do
  let address ← address? (text "path" arguments)
  let body := body? arguments
  return {
    method := String.ofList ((text "method" arguments).toList.map Char.toUpper)
    path := decoded address.path.toList
    query := queryTable ((address.query.getD "").toList)
    headers := headers arguments body.isSome
    body := body.getD [] }

/-! ### Running requests -/

/-- Makes a request after the clock was moved and scripts were set. -/
def perform (settings : SiteSettings) (step : Value) (world : World) :
    Except Fault (SiteResult × World) := do
  let arguments := match step with
    | .obj members => members
    | _ => []
  let moved := (world.advanced? (value "advance" arguments)).getD world
  match request? arguments with
  | none => throw .invalidAddress
  | some request =>
      let (outcome, later) := (moved.scripted arguments).run (respond settings request)
      let (calls, last) := later.takeCalls
      let response := match outcome with
        | .ok response => response
        | .error fault => .ofFault fault
      return (⟨response, calls⟩, last)

/-- Makes requests in order. -/
def performAll (settings : SiteSettings) : List Value → World → Except Fault (List SiteResult)
  | [], _ => .ok []
  | step :: rest, world => do
      let (result, later) ← perform settings step world
      return result :: (← performAll settings rest later)

end Site

end ChatFlow

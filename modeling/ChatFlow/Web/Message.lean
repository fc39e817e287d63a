import ChatFlow.Net.Exchange
import ChatFlow.Schema.Codec
import ChatFlow.Text.Search
/-
Requests to the site and its responses. Data in a request is read with all its issues; each refusal
says what is wrong.
-/

namespace ChatFlow.Web

/-- A request: its path and query are in decoded form, and names of headers are in small letters. -/
structure Request where
  method : String
  path : String
  query : Table String
  headers : Table String
  body : List UInt8
  deriving DecidableEq, Repr

/-- A response, whose content is a value or nothing. -/
structure Response where
  status : Int
  content : Option Value
  deriving DecidableEq, Repr

/-! ### Responses -/

namespace Response

/-- A response to a request that was carried out. A value with numbers that are not finite cannot be
shown. -/
def ofValue (status : Int) (value : Value) : Response :=
  if value.isAllFinite then ⟨status, some value⟩
  else
    ⟨500, some (.obj [("detail", .str "Internal server error"),
      ("error", .str "Out of range float values are not JSON compliant"),
      ("status_code", .int 500)])⟩

def ok (value : Value) : Response := ofValue 200 value

def refusal (status : Int) (detail : String) : Response :=
  ⟨status, some (.obj [("detail", .str detail),
    ("error", .str (toString status ++ ": " ++ detail)), ("status_code", .int status)])⟩

/-- A refusal of the site itself, before any endpoint is asked. -/
def siteRefusal (status : Int) (detail : String) : Response :=
  ⟨status, some (.obj [("detail", .str detail)])⟩

def unauthorized : Response := refusal 401 "Unauthorized"

/-- The refusal of data that is not what an endpoint takes. -/
def ofIssues (issues : List Issue) : Response :=
  ⟨422, some (.obj [("detail", .arr ((Issue.ordered issues).map Issue.toValue))])⟩

/-- A fault of the engine has a status of its own; any other is an error of the server. -/
def ofFault (fault : Fault) : Response :=
  if fault.isEngineFault then refusal fault.statusCode fault.message
  else refusal 500 fault.message

/-- The response that sends a client to the path without slashes at its end. -/
def moved : Response := ⟨307, none⟩

end Response

/-! ### Requests -/

namespace Request

open Text

/-- The name of an organization in the headers; an empty name is none. -/
def organization? (request : Request) : Option String :=
  (Table.lookup? "x-organization-id" request.headers).filter fun name => !name.isEmpty

def user? (request : Request) : Option String := Table.lookup? "x-user-id" request.headers

/-- Whether the body is declared to be JSON; a body that is not declared counts as JSON. -/
def isJson (request : Request) : Bool :=
  let kind := ((Table.lookup? "content-type" request.headers).getD "").toList
  if kind.isEmpty then true
  else
    match Text.splitWhere (· == '/') (lowerChars (trimBlanks (kind.takeWhile (· != ';')))) with
    | [main, sub] =>
        main == "application".toList && (sub == "json".toList || endsWith "+json".toList sub)
    | _ => false

/-- The value in the body of a request, or the refusal of a body that holds none. A body that is not
JSON counts as a text. -/
def value (request : Request) : Except Response Value :=
  if request.body.isEmpty then .error (.ofIssues [⟨.missing, [.name "body"]⟩])
  else if request.isJson then
    match (Charset.ofJson request.body).read? request.body with
    | none => .error (.refusal 400 "There was an error parsing the body")
    | some characters =>
        match Json.read characters with
        | .ok value => .ok value
        | .error (.malformed place) =>
            .error (.ofIssues [⟨.malformedJson, [.name "body", .index place]⟩])
        | .error .integerTooLong =>
            .error (.refusal 400 "There was an error parsing the body")
  else .ok (.str (String.ofList (Charset.utf8.readLeniently request.body)))

/-- Data as it was read, or the refusal of its issues. -/
def accepted {α : Type} (place : String) (read : Checked α) : Except Response α :=
  match read.under (.name place) with
  | .accepted data => .ok data
  | .rejected issues => .error (.ofIssues issues)

def record {α : Type} (ofMembers : Table Value → Checked α) (request : Request) :
    Except Response α := do
  accepted "body" (Schema.decodeRecord .notAttributes ofMembers (← request.value))

def pathInteger (name : String) (arguments : Table String) : Except Response Int :=
  accepted "path" ((Schema.decodeInt (.ofText? (Table.lookup? name arguments))).under (.name name))

def queryInteger? (name : String) (request : Request) : Except Response (Option Int) :=
  match Table.lookup? name request.query with
  | none => .ok none
  | some text =>
      accepted "query" (((Schema.decodeInt (.str text)).under (.name name)).map some)

end Request

end ChatFlow.Web

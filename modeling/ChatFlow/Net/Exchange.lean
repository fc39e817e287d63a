import ChatFlow.Json.Printer
import ChatFlow.Json.Reader
import ChatFlow.Net.Address
import ChatFlow.Program
import ChatFlow.Text.Base64
import ChatFlow.Text.Charset
import ChatFlow.Value.Spoken
/-
Exchanges with services over the net: a request is put together and checked, then sent, and a reply
comes back as a status, headers and bytes.
-/

namespace ChatFlow

/-- What a request carries. -/
inductive Body where
  | none
  | text (content : String)
  | json (value : Value)
  deriving DecidableEq, Repr

/-- A request as it is sent. Names of headers are in small letters. -/
structure WireRequest where
  method : String
  address : Address
  headers : Table String
  body : Body
  deriving DecidableEq, Repr

structure WireReply where
  statusCode : Int
  headers : Table String
  bytes : List UInt8
  deriving DecidableEq, Repr

/-! ### Requests -/

namespace Body

def content : Body → String
  | .none => ""
  | .text content => content
  | .json value => String.ofList (Json.print .compact value)

end Body

mutual

def Value.isAllFinite : Value → Bool
  | .real value => value.isFinite
  | .arr items => Value.areAllFinite items
  | .obj members => Value.haveAllFinite members
  | _ => true

def Value.areAllFinite : List Value → Bool
  | [] => true
  | value :: rest => value.isAllFinite && Value.areAllFinite rest

def Value.haveAllFinite : List (String × Value) → Bool
  | [] => true
  | (_, value) :: rest => value.isAllFinite && Value.haveAllFinite rest

end

namespace WireRequest

open Text

def isAscii (text : String) : Bool := text.toList.all fun character => character.toNat < 128

/-- One more header; headers of one name, whatever its capitals, share a line. -/
def addHeader (headers : Table String) (header : String × Value) :
    Except Fault (Table String) := do
  if !isAscii header.1 then throw .unencodable
  let name := String.ofList (header.1.toList.map Number.asciiLower)
  match header.2 with
  | .str value =>
      if !isAscii value then throw .unencodable
      match Table.lookup? name headers with
      | some before => return Table.put name (before ++ ", " ++ value) headers
      | none => return Table.put name value headers
  | _ => throw .wrongKind

/-- The header that presents the credentials of an address, if it has any. -/
def credentialsHeader? (address : Address) : Option String :=
  let (user, rest) := address.credentials.toList.span (· != ':')
  let secret := rest.drop 1
  if user.isEmpty && secret.isEmpty then none
  else
    let pair := percentDecode user ++ utf8Bytes ":" ++ percentDecode secret
    some ("Basic " ++ String.ofList (base64Encode pair))

/-- A header that is set unless it is there already. -/
def withDefaultHeader (name value : String) (headers : Table String) : Table String :=
  if Table.has name headers then headers else Table.put name value headers

/-- Puts a request together. Headers are ASCII, and numbers in a JSON body are finite. -/
def build (method : String) (address : Address) (headers : Table Value) (body : Body) :
    Except Fault WireRequest := do
  let given ← headers.foldlM addHeader []
  let withBody ← match body with
    | .json value =>
        if value.isAllFinite then pure (withDefaultHeader "content-type" "application/json" given)
        else throw .unreadableNumeral
    | _ => pure given
  let complete := match credentialsHeader? address with
    | some credentials => Table.put "authorization" credentials withBody
    | none => withBody
  return ⟨method, address, complete, body⟩

/-- What keeps a request from being sent at all. -/
def obstacle? (request : WireRequest) : Option String :=
  let scheme := request.address.scheme
  if scheme.isEmpty || request.address.host.isEmpty then
    some "Request URL is missing an 'http://' or 'https://' protocol."
  else if scheme = "http" || scheme = "https" then none
  else some ("Request URL has an unsupported protocol '" ++ scheme ++ "://'.")

end WireRequest

/-! ### Replies -/

namespace WireReply

open Text

/-- The charset that the headers of a reply name, or else UTF-8. -/
def charset (reply : WireReply) : Charset :=
  let named := do
    let kind ← Table.lookup? "content-type" reply.headers
    let parameters := (Text.splitWhere (· == ';') kind.toList).drop 1
    let value ← parameters.findSome? fun (parameter : List Char) =>
      let (name, rest) := parameter.span (· != '=')
      if lowerChars (trimBlanks name) == "charset".toList then some (trimBlanks (rest.drop 1))
      else none
    Charset.named? (value.filter (· != '"'))
  named.getD .utf8

def text (reply : WireReply) : String :=
  String.ofList (reply.charset.readLeniently reply.bytes)

/-- The value that the bytes of a reply hold as JSON. -/
def json (reply : WireReply) : Except Fault Value :=
  match (Charset.ofJson reply.bytes).read? reply.bytes with
  | none => .error .undecodable
  | some characters =>
      match Json.read characters with
      | .ok value => .ok value
      | .error .integerTooLong => .error .unreadableNumeral
      | .error (.malformed _) => .error .malformedJson

end WireReply

/-! ### Calls -/

/-- A call to the net: a client is opened with a limit of time, or a request is sent. -/
inductive WireCall where
  | openClient (timeout : Value)
  | send (request : WireRequest)
  deriving DecidableEq, Repr

def WireCall.Answer : WireCall → Type
  | .openClient _ => Unit
  | .send _ => WireReply

/-- A program over calls to the net. -/
abbrev Exchange (α : Type) := Program WireCall.Answer α

namespace Exchange

/-- Opens a client and makes one request to an address. -/
def request (timeout : Value) (method url : String) (parameters : Table String)
    (headers : Table Value) (body : Body) : Exchange WireReply := do
  Program.perform (WireCall.openClient timeout)
  match Address.read? url with
  | none => .fail .invalidAddress
  | some address =>
      let address := if parameters.isEmpty then address else address.withQuery parameters
      let request ← Program.ofExcept (WireRequest.build method address headers body)
      match request.obstacle? with
      | some message => .fail (.transportFailed message)
      | none => Program.perform (WireCall.send request)

/-- Reports that a service was not reached: by one message when it took too long, by another with
the cause otherwise. -/
def reporting {α : Type} (late : String) (failed : String) (program : Exchange α) : Exchange α :=
  program.recover fun fault =>
    match fault with
    | .timedOut _ => some (.fail (.external ⟨late, true, 504⟩))
    | .transportFailed cause => some (.fail (.external ⟨failed ++ ": " ++ cause, false, 502⟩))
    | _ => none

/-- The failure of a service that was reached. -/
def failure {α : Type} (message : String) : Exchange α := .fail (.external ⟨message, false, 502⟩)

end Exchange

end ChatFlow

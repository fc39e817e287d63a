import ChatFlow.Net.Host
/-
Addresses of requests: how one is read from text, and the text in which its parts are coded.
-/

namespace ChatFlow

/-- The parts of an address in coded form. -/
structure Address where
  scheme : String
  credentials : String
  host : String
  port : Option Int
  path : String
  query : Option String
  fragment : Option String
  deriving DecidableEq, Repr

namespace Address

open Text

/-! ### Splitting -/

/-- A scheme and what follows its colon; the scheme may be empty. -/
def splitScheme (characters : List Char) : List Char × List Char :=
  let (name, rest) := characters.span fun character =>
    isAsciiLetter character || isAsciiDigit character || "+.-".toList.contains character
  match rest with
  | ':' :: rest =>
      if (name.head?.map isAsciiLetter).getD true then (name, rest) else ([], characters)
  | _ => ([], characters)

/-- What stands after two slashes, up to the path, the query or the fragment. -/
def splitAuthority : List Char → List Char × List Char
  | '/' :: '/' :: rest =>
      rest.span fun character => character != '/' && character != '?' && character != '#'
  | characters => ([], characters)

/-- What stands after a mark at the start, up to the next mark. -/
def splitMarked (mark : Char) (next : Char → Bool) (characters : List Char) :
    Option (List Char) × List Char :=
  match characters with
  | first :: rest =>
      if first == mark then
        let (part, rest) := rest.span fun character => !next character
        (some part, rest)
      else (none, characters)
  | [] => (none, [])

/-- What stands before the last at sign, and what stands after it. -/
def splitCredentials (characters : List Char) : List Char × List Char :=
  let (host, rest) := characters.reverse.span (· != '@')
  match rest with
  | [] => ([], characters)
  | _ :: credentials => (credentials.reverse, host.reverse)

/-- A host, which may stand in brackets, and what follows it. -/
def splitHost (characters : List Char) : List Char × List Char :=
  if characters.head? == some '[' && characters.contains ']' then
    let (rest, host) := characters.reverse.span (· != ']')
    (host.reverse, rest.reverse)
  else characters.span (· != ':')

/-! ### Parts -/

def impliedPort? (scheme : List Char) : Option Int :=
  match String.ofList scheme with
  | "ftp" => some 21
  | "http" => some 80
  | "https" => some 443
  | "ws" => some 80
  | "wss" => some 443
  | _ => none

/-- The port of an address, if it is written and not the one that the scheme implies. -/
def port? (scheme characters : List Char) : Option (Option Int) :=
  let digits := if characters.head? == some ':' then characters.tail else characters
  if digits.isEmpty then some none
  else (Number.readInt? digits).map fun port =>
    if impliedPort? scheme = some port then none else some port

/-- A path without the steps that stay or lead back. -/
def plainPath (path : List Char) : List Char :=
  let steps := Text.splitWhere (· == '/') path
  if steps.contains ['.'] || steps.contains ['.', '.'] then
    let kept := steps.foldl (fun kept step =>
      if step == ['.'] then kept
      else if step == ['.', '.'] then
        if kept == [[]] then kept else kept.dropLast
      else kept ++ [step]) ([] : List (List Char))
    List.intercalate ['/'] kept
  else path

def isVisible (character : Char) : Bool := ' ' < character && character ≤ '~'

def isKeptInQuery (character : Char) : Bool :=
  isVisible character && !"\"#<>".toList.contains character

def isKeptInPath (character : Char) : Bool :=
  isKeptInQuery character && !"?`\x7b\x7d".toList.contains character

def isKeptInFragment (character : Char) : Bool :=
  isVisible character && !"\"<>`".toList.contains character

def isKeptInCredentials (character : Char) : Bool :=
  isKeptInPath character && !"/;=@[\\]^|".toList.contains character

def coded (isKept : Char → Bool) (characters : List Char) : String :=
  String.ofList (percentEncode isKept characters)

/-- Whether a path may stand beside the other parts. -/
def pathIsFine (hasScheme hasAuthority : Bool) (path : List Char) : Bool :=
  if hasAuthority then path.isEmpty || path.head? == some '/'
  else hasScheme || !(path.take 2 == ['/', '/'] || path.head? == some ':')

def maxLength : Nat := 65536

def isControl (character : Char) : Bool := character < ' ' || character == '\x7f'

/-- Reads an address. Control characters are refused, as are hosts and ports that are none. -/
def read? (text : String) : Option Address :=
  let characters := text.toList
  if characters.length > maxLength || characters.any isControl then none
  else do
    let (scheme, rest) := splitScheme characters
    let (authority, rest) := splitAuthority rest
    let (path, rest) := rest.span fun character => character != '?' && character != '#'
    let (query, rest) := splitMarked '?' (· == '#') rest
    let (fragment, _) := splitMarked '#' (fun _ => false) rest
    let (credentials, place) := splitCredentials authority
    let (host, afterHost) := splitHost place
    let host ← Host.encode? host
    let port ← port? scheme afterHost
    let hasScheme := !scheme.isEmpty
    let hasAuthority := !credentials.isEmpty || !host.isEmpty || port.isSome
    if !pathIsFine hasScheme hasAuthority path then none
    else
      return {
        scheme := String.ofList (scheme.map Number.asciiLower)
        credentials := coded isKeptInCredentials credentials
        host := String.ofList host
        port := port
        path := coded isKeptInPath (if hasScheme || hasAuthority then plainPath path else path)
        query := query.map (coded isKeptInQuery)
        fragment := fragment.map (coded isKeptInFragment) }

/-- The address with a query of its own in place of any that it had. -/
def withQuery (parameters : Table String) (address : Address) : Address :=
  let form (text : String) : List Char := formEncode text.toList
  let pairs := parameters.map fun entry => form entry.1 ++ '=' :: form entry.2
  { address with query := some (String.ofList (List.intercalate ['&'] pairs)) }

/-- The host, in brackets where it has colons, and the port. -/
def place (address : Address) : String :=
  let host := if address.host.toList.contains ':' then "[" ++ address.host ++ "]" else address.host
  host ++ (address.port.map fun port => ":" ++ toString port).getD ""

/-- Credentials, host and port. -/
def authority (address : Address) : String :=
  (if address.credentials.isEmpty then "" else address.credentials ++ "@") ++ address.place

def text (address : Address) : String :=
  (if address.scheme.isEmpty then "" else address.scheme ++ ":") ++
    (if address.authority.isEmpty then "" else "//" ++ address.authority) ++ address.path ++
    (address.query.map ("?" ++ ·)).getD "" ++ (address.fragment.map ("#" ++ ·)).getD ""

end Address

end ChatFlow

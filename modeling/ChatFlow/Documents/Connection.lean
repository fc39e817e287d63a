import ChatFlow.Configuration
import ChatFlow.Text.Percent
/-
How the document database is reached: an address that is configured as a whole, or one that is put
together from its parts.
-/

namespace ChatFlow.Documents

/-- Where the document database is. User name and password are in their coded form. -/
structure Connection where
  address : Value
  username : String
  password : String
  authority : String
  host : String
  port : Int
  database : Value
  deriving DecidableEq, Repr

namespace Connection

def coded (text : String) : String := String.ofList (Text.formEncode text.toList)

def ofConfiguration (configuration : Configuration) : Except Fault Connection := do
  return {
    address := ← configuration.get "MONGO_URI"
    username := coded (← configuration.getText "MONGO_USERNAME")
    password := coded (← configuration.getText "MONGO_PASSWORD")
    authority := ← configuration.getText "MONGO_AUTH_SOURCE"
    host := ← configuration.getText "MONGO_HOST"
    port := ← configuration.getInteger "MONGO_PORT"
    database := ← configuration.get "MONGO_DB_NAME" }

/-- The address to connect to. Credentials are part of it only when both are there. -/
def uri (connection : Connection) : Value :=
  let place := connection.host ++ ":" ++ toString connection.port ++ "/"
  if connection.address.isTruthy then connection.address
  else if connection.username.isEmpty || connection.password.isEmpty then
    .str ("mongodb://" ++ place)
  else
    .str ("mongodb://" ++ connection.username ++ ":" ++ connection.password ++ "@" ++ place ++
      "?authSource=" ++ connection.authority)

/-- The fault of asking for a connection where nothing could wait for its answers. -/
def outsideOfLoop : Fault :=
  .runtime
    "No event loop available. Database methods must be called from an async context."

end Connection

end ChatFlow.Documents

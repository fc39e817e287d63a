import ChatFlow.Fault
import ChatFlow.Text.Case
import ChatFlow.Value.Numeral
import ChatFlow.Value.Spoken
/-
Configuration: the settings that the program knows, their values when the environment is silent, and
the values that replace them.
-/

namespace ChatFlow

/-- How the value of a setting is read from its text in the environment. -/
inductive SettingKind where
  | text | integer | real
  deriving DecidableEq, Repr

/-- A setting, with its text for an environment that does not name it. -/
structure Setting where
  name : String
  kind : SettingKind
  absent : String
  deriving DecidableEq, Repr

/-- Every setting that the program knows. -/
def knownSettings : List Setting :=
  [⟨"APP_ENV", .text, "production"⟩,
    ⟨"HOST", .text, "0.0.0.0"⟩,
    ⟨"PORT", .integer, "8018"⟩,
    ⟨"ORG_ID", .text, "flow-engine"⟩,
    ⟨"LOKI_URL", .text, ""⟩,
    ⟨"LOG_LEVEL", .text, "INFO"⟩,
    ⟨"FLOW_DB_BACKEND", .text, "mongo"⟩,
    ⟨"MONGO_URI", .text, ""⟩,
    ⟨"MONGO_USERNAME", .text, ""⟩,
    ⟨"MONGO_PASSWORD", .text, ""⟩,
    ⟨"MONGO_AUTH_SOURCE", .text, "admin"⟩,
    ⟨"MONGO_HOST", .text, "localhost"⟩,
    ⟨"MONGO_PORT", .integer, "27017"⟩,
    ⟨"MONGO_DB_NAME", .text, "flow_db"⟩,
    ⟨"CHANNEL_SERVICE_URL", .text, "http://localhost:8010/channel"⟩,
    ⟨"CRM_SERVICE_URL", .text, "http://localhost:8011/crm"⟩,
    ⟨"EMAIL_SERVICE_URL", .text, "http://localhost:8012/email"⟩,
    ⟨"COLLABORATOR_TIMEOUT_SECONDS", .real, "15"⟩,
    ⟨"AI_API_URL", .text, "https://api.openai.com/v1/chat/completions"⟩,
    ⟨"AI_API_KEY", .text, ""⟩,
    ⟨"AI_DEFAULT_MODEL", .text, "gpt-4o-mini"⟩,
    ⟨"AI_TIMEOUT_SECONDS", .real, "30"⟩,
    ⟨"MAX_FLOW_STEPS", .integer, "50"⟩,
    ⟨"DELAY_CHECK_INTERVAL_SECONDS", .integer, "5"⟩,
    ⟨"EXECUTION_LOG_LIMIT", .integer, "200"⟩]

/-- The value of a setting that is written as a text. -/
def SettingKind.read (kind : SettingKind) (text : String) : Except Fault Value :=
  match kind with
  | .text => .ok (.str text)
  | .integer => Value.int <$> (Value.str text).toInteger
  | .real => Value.real <$> (Value.str text).toReal

/-- Settings with their values. -/
structure Configuration where
  values : Table Value
  deriving DecidableEq, Repr

namespace Configuration

/-- Reads every known setting from the environment; given values replace what is read, and may add
settings of other names. -/
def read (environment : Table String) (replacements : Table Value) :
    Except Fault Configuration := do
  let known ← knownSettings.mapM fun setting => do
    let text := (Table.lookup? setting.name environment).getD setting.absent
    return (setting.name, ← setting.kind.read text)
  return ⟨Table.putAll known replacements⟩

def get (name : String) (configuration : Configuration) : Except Fault Value :=
  match Table.lookup? name configuration.values with
  | some value => .ok value
  | none => .error (.unknownVariable name)

def getText (name : String) (configuration : Configuration) : Except Fault String :=
  Value.spoken <$> configuration.get name

def getInteger (name : String) (configuration : Configuration) : Except Fault Int := do
  (← configuration.get name).toInteger

def getReal (name : String) (configuration : Configuration) : Except Fault Binary64 := do
  (← configuration.get name).toReal

end Configuration

/-- Where flows are kept. -/
inductive Backend where
  | documents | memory
  deriving DecidableEq, Repr

/-- The kind of store that is configured; capitals make no difference. -/
def Configuration.backend (configuration : Configuration) : Except Fault Backend := do
  let name := Text.lower (← configuration.getText "FLOW_DB_BACKEND")
  if name = "memory" then return .memory
  else if name = "mongo" then return .documents
  else throw (.unknownBackend name)

end ChatFlow

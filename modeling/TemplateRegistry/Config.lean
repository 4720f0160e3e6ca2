import TemplateRegistry.Markup.Render
import TemplateRegistry.Number.Natural
import TemplateRegistry.Text.Blank
import TemplateRegistry.Time.Duration
/-!
# Configuration

The program is configured by variables, each of which has a default, except for
the address of the database, which only some uses need.

* `Config.read` — the configuration that a source of variables gives;
* `Config.readNatural` — how the value of a numeric variable is read.
-/

namespace TemplateRegistry

/-- A variable that is missing or cannot be used. -/
inductive ConfigError
  | missing (var : String)
  | invalid (var value reason : String)
  deriving DecidableEq

/-- The message of an error. -/
def ConfigError.message : ConfigError → String
  | missing var => s!"{var} must be set"
  | invalid var value reason => s!"{var} has invalid value '{value}': {reason}"

/-- The configuration of the program. -/
structure Config where
  databaseUrl : Option String
  maxConnections : Nat
  /-- How long active versions are cached; zero turns the cache off. -/
  cacheTimeToLive : Duration
  /-- How long a call of the store may take. -/
  storeTimeout : Duration
  maxIncludeDepth : Nat
  /-- How often an activation that lost a race is tried again. -/
  activationRetries : Nat
  deriving DecidableEq

namespace Config

/-- The configuration when no variable is set. -/
def default : Config where
  databaseUrl := none
  maxConnections := 20
  cacheTimeToLive := .ofSeconds 300
  storeTimeout := .ofSeconds 10
  maxIncludeDepth := Markup.defaultIncludeDepth
  activationRetries := 3

/-- The number in a variable, without blanks around it, or the default of a
variable that is not set. -/
def readNatural (lookup : String → Option String) (var : String)
    (largest default : Nat) :
    Except ConfigError Nat :=
  match lookup var with
  | none => .ok default
  | some value =>
    match parseNatural largest (Text.trim value).toList with
    | .ok n => .ok n
    | .error reason => .error (.invalid var value reason)

/-- Reject a zero in a variable. -/
def requirePositive (var : String) (n : Nat) : Except ConfigError Unit :=
  if n = 0 then .error (.invalid var "0" "must be at least 1") else .ok ()

/-- The configuration that a source of variables gives. -/
def read (lookup : String → Option String) : Except ConfigError Config := do
  let databaseUrl :=
    (lookup "DATABASE_URL").filter fun url => !Text.isBlankText url
  let maxConnections ← readNatural lookup "DB_MAX_CONNECTIONS" largest32
    default.maxConnections
  let cacheSeconds ← readNatural lookup "CACHE_TTL_SECS" largest64
    default.cacheTimeToLive.seconds
  let storeSeconds ←
    readNatural lookup "STORE_TIMEOUT_SECS" largest64
      default.storeTimeout.seconds
  let maxIncludeDepth ← readNatural lookup "MAX_INCLUDE_DEPTH" largest64
    default.maxIncludeDepth
  let activationRetries ←
    readNatural lookup "ACTIVATION_MAX_RETRIES" largest32
      default.activationRetries
  requirePositive "DB_MAX_CONNECTIONS" maxConnections
  requirePositive "STORE_TIMEOUT_SECS" storeSeconds
  return {
    databaseUrl
    maxConnections
    cacheTimeToLive := .ofSeconds cacheSeconds
    storeTimeout := .ofSeconds storeSeconds
    maxIncludeDepth
    activationRetries }

/-- The address of the database, for a use that needs it. -/
def requireDatabaseUrl (config : Config) : Except ConfigError String :=
  match config.databaseUrl with
  | some url => .ok url
  | none => .error (.missing "DATABASE_URL")

end Config

end TemplateRegistry

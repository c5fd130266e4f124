import NestedRows.Live.Config
import NestedRows.Settings.Duration
import NestedRows.Settings.Environment
import NestedRows.Sql.Dialect
import NestedRows.Text.Quoted
/-!
# Settings

What can be configured: the database, its connection pool, live queries, and the name under which
changes are reported. Settings hold texts as they were written. They are checked when they are used,
each part on its own, so that a wrong duration of the pool does not stop a live query.
-/

namespace NestedRows

/-- What a configuration asks for that cannot be. -/
inductive ConfigProblem where
  | emptyNamespace
  | noConnections
  /-- A buffer of live queries has no room. -/
  | noRoom
  /-- The name of a source is empty, or has a full stop, which would cut a topic. -/
  | badSourceName (name : String)
  deriving DecidableEq

def ConfigProblem.message : ConfigProblem → String
  | emptyNamespace => "database.namespace must not be empty"
  | noConnections => "database.pool.max_connections must be at least 1"
  | noRoom => "live.channel_capacity and live.subscriber_buffer must be at least 1"
  | badSourceName name => "cdc.source_name must be non-empty without '.': " ++ Text.quoted name

/-- Why settings cannot be used. -/
inductive SettingsError where
  | fileNotFound (path : String)
  /-- The text is no TOML, or does not have the shape of settings. -/
  | unreadable
  | missingVariable (name : String)
  | invalidDuration (text : String)
  | unsupportedDriver (name : String)
  | invalidConfig (problem : ConfigProblem)
  deriving DecidableEq

def SettingsError.message : SettingsError → String
  | fileNotFound path => "Config file not found: " ++ path
  | unreadable => "Failed to parse config file"
  | missingVariable name => "Missing environment variable: " ++ name
  | invalidDuration text => "Invalid duration format: " ++ text
  | unsupportedDriver name => "Unsupported driver: " ++ name
  | invalidConfig problem => "Invalid configuration: " ++ problem.message

/-- A database driver. -/
inductive Driver where
  | sqlite
  | postgres
  deriving DecidableEq

namespace Driver

def toText : Driver → String
  | sqlite => "sqlite"
  | postgres => "postgres"

/-- The namespace of tables where none is configured. -/
def defaultNamespace : Driver → String
  | sqlite => "main"
  | postgres => "public"

def dialect : Driver → Dialect
  | sqlite => .sqlite
  | postgres => .postgres

/-- The driver that a text names in letters of any case. -/
def parse (s : String) : Except SettingsError Driver :=
  let lowered := String.ofList (Text.toLower s.toList)
  match lowered with
  | "sqlite" | "sqlite3" => .ok sqlite
  | "postgres" | "postgresql" | "pg" => .ok postgres
  | _ => .error (.unsupportedDriver lowered)

end Driver

/-- The connection pool as configured. -/
structure PoolSettings where
  maxConnections : Nat := 10
  acquireTimeout : String := "5s"
  idleTimeout : String := "1m"
  maxLifetime : String := "30m"

/-- The database as configured. -/
structure DatabaseSettings where
  url : String := "sqlite::memory:"
  driver : String := "sqlite"
  namespaceName : Option String := none
  pool : PoolSettings := {}

/-- Tries of a failing refetch as configured. -/
structure RetrySettings where
  maxRetries : Nat := 3
  backoff : String := "250ms"

/-- Live queries as configured. -/
structure LiveSettings where
  channelCapacity : Nat := 1024
  subscriberBuffer : Nat := 16
  coalesceEvents : Bool := true
  retry : RetrySettings := {}

/-- The reporting of changes as configured. -/
structure ChangeSettings where
  sourceName : String := "rowgraph"

/-- All settings. -/
structure Settings where
  database : DatabaseSettings := {}
  live : LiveSettings := {}
  changes : ChangeSettings := {}

/-- How many connections a pool opens and how long it keeps them, in milliseconds. -/
structure PoolConfig where
  maxConnections : Nat
  acquireTimeout : Nat
  /-- No limit if absent. -/
  idleTimeout : Option Nat
  /-- No limit if absent. -/
  maxLifetime : Option Nat
  deriving DecidableEq

def settingsDuration (s : String) : Except SettingsError Nat :=
  (Duration.parse s).mapError .invalidDuration

namespace DatabaseSettings

def driver? (s : DatabaseSettings) : Except SettingsError Driver := Driver.parse s.driver

/-- The address of the database, with its variables replaced. -/
def resolvedUrl (s : DatabaseSettings) (env : Environment) : Except SettingsError String :=
  (env.expand s.url).mapError .missingVariable

/-- The namespace of the tables: the configured one, or that of the driver. -/
def resolvedNamespace (s : DatabaseSettings) : Except SettingsError String :=
  match s.namespaceName with
  | some "" => .error (.invalidConfig .emptyNamespace)
  | some name => .ok name
  | none => s.driver?.map Driver.defaultNamespace

end DatabaseSettings

/-- The pool that the settings ask for. A limit of zero is no limit. -/
def PoolSettings.toConfig (s : PoolSettings) : Except SettingsError PoolConfig := do
  if s.maxConnections = 0 then throw (.invalidConfig .noConnections)
  let limit (ms : Nat) : Option Nat := if ms = 0 then none else some ms
  let acquire ← settingsDuration s.acquireTimeout
  let idle ← settingsDuration s.idleTimeout
  let lifetime ← settingsDuration s.maxLifetime
  return ⟨s.maxConnections, acquire, limit idle, limit lifetime⟩

/-- The live queries that the settings ask for. -/
def LiveSettings.toConfig (s : LiveSettings) (changes : ChangeSettings) :
    Except SettingsError LiveConfig := do
  if s.channelCapacity = 0 ∨ s.subscriberBuffer = 0 then throw (.invalidConfig .noRoom)
  if changes.sourceName.toList.isEmpty ∨ changes.sourceName.toList.contains '.' then
    throw (.invalidConfig (.badSourceName changes.sourceName))
  let backoff ← settingsDuration s.retry.backoff
  return {
    channelCapacity := s.channelCapacity
    subscriberBuffer := s.subscriberBuffer
    coalesceEvents := s.coalesceEvents
    retry := ⟨s.retry.maxRetries, backoff⟩
    sourceName := changes.sourceName }

end NestedRows

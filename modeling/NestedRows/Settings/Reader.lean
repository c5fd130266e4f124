import NestedRows.Settings.Basic
import NestedRows.Toml.Parser
/-!
# Reading settings

Settings are read from a TOML text. A section is a table of its settings, or an array of them in
declaration order; what is missing has its default value and what is unknown is skipped. A value of
another type than expected makes the whole text unreadable, and so does a number beyond its range
at an unknown name.
-/

namespace NestedRows

open Toml (Value)

/-- The settings of a section by name or by place; `none` if the value is no section. A time has no
settings. -/
def section? (names : List String) : Value → Option (List (Option Value))
  | .table entries =>
    if Value.entriesAreSound (entries.filter fun (name, _) => !names.contains name) then
      some (names.map fun name => List.lookup name entries)
    else none
  | .time _ => some (names.map fun _ => none)
  | .array items => some ((items.take names.length).map some
      ++ List.replicate (names.length - items.length) none)
  | _ => none

def textOf? : Value → Option String
  | .string s => some s
  | _ => none

def boolOf? : Value → Option Bool
  | .bool b => some b
  | _ => none

/-- A whole number of at most the given number of bits. -/
def natOf? (bits : Nat) : Value → Option Nat
  | .integer n => if 0 ≤ n ∧ n.toNat < Nat.pow 2 bits then some n.toNat else none
  | _ => none

/-- The value of a setting, or its default where it is missing. -/
def setting {α : Type} (read : Value → Option α) (default : α) : Option Value → Option α
  | none => some default
  | some v => read v

namespace PoolSettings

def ofValue? (v : Value) : Option PoolSettings := do
  let d : PoolSettings := {}
  match ← section? ["max_connections", "acquire_timeout", "idle_timeout", "max_lifetime"] v with
  | [connections, acquire, idle, lifetime] =>
    return {
      maxConnections := ← setting (natOf? 32) d.maxConnections connections
      acquireTimeout := ← setting textOf? d.acquireTimeout acquire
      idleTimeout := ← setting textOf? d.idleTimeout idle
      maxLifetime := ← setting textOf? d.maxLifetime lifetime }
  | _ => none

end PoolSettings

def DatabaseSettings.ofValue? (v : Value) : Option DatabaseSettings := do
  let d : DatabaseSettings := {}
  match ← section? ["url", "driver", "namespace", "pool"] v with
  | [url, driver, namespaceName, pool] =>
    return {
      url := ← setting textOf? d.url url
      driver := ← setting textOf? d.driver driver
      namespaceName := ← setting (fun v => (textOf? v).map some) d.namespaceName namespaceName
      pool := ← setting PoolSettings.ofValue? d.pool pool }
  | _ => none

def RetrySettings.ofValue? (v : Value) : Option RetrySettings := do
  let d : RetrySettings := {}
  match ← section? ["max_retries", "backoff"] v with
  | [retries, backoff] =>
    return {
      maxRetries := ← setting (natOf? 32) d.maxRetries retries
      backoff := ← setting textOf? d.backoff backoff }
  | _ => none

def LiveSettings.ofValue? (v : Value) : Option LiveSettings := do
  let d : LiveSettings := {}
  match ← section? ["channel_capacity", "subscriber_buffer", "coalesce_events", "retry"] v with
  | [capacity, buffer, coalesce, retry] =>
    return {
      channelCapacity := ← setting (natOf? 64) d.channelCapacity capacity
      subscriberBuffer := ← setting (natOf? 64) d.subscriberBuffer buffer
      coalesceEvents := ← setting boolOf? d.coalesceEvents coalesce
      retry := ← setting RetrySettings.ofValue? d.retry retry }
  | _ => none

def ChangeSettings.ofValue? (v : Value) : Option ChangeSettings := do
  let d : ChangeSettings := {}
  match ← section? ["source_name"] v with
  | [name] => return { sourceName := ← setting textOf? d.sourceName name }
  | _ => none

namespace Settings

def ofValue? (v : Value) : Option Settings := do
  let d : Settings := {}
  match ← section? ["database", "live", "cdc"] v with
  | [database, live, changes] =>
    return {
      database := ← setting DatabaseSettings.ofValue? d.database database
      live := ← setting LiveSettings.ofValue? d.live live
      changes := ← setting ChangeSettings.ofValue? d.changes changes }
  | _ => none

def ofToml (s : String) : Except SettingsError Settings :=
  match (Toml.parse? s).bind ofValue? with
  | some settings => .ok settings
  | none => .error .unreadable

end Settings

end NestedRows

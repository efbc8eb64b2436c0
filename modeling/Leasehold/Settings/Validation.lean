import Leasehold.Failure.Basic
import Leasehold.Settings.Basic
import Leasehold.Settings.Coercion

/-!
# Validation

From data of any shape to settings, or to all rules that the data breaks.

- **Checks** (`Checked`): a value or the issues found, which add up from field to field.
- **Fields** (`Checked.field`): a field that is not given has its default; unknown names are
  ignored.
- **Models** (`StoreSettings.validate`, `LockSettings.validate`, `Settings.validate`).
-/

namespace Leasehold

/-- The outcome of checking data: a value, or every issue in order. -/
inductive Checked (α : Type) where
  | valid (a : α)
  | invalid (issues : List Issue)

namespace Checked

/-- Applies a checked function to a checked value, with the issues of both. -/
def apply {α β : Type} : Checked (α → β) → Checked α → Checked β
  | valid f, valid a => valid (f a)
  | valid _, invalid is => invalid is
  | invalid is, valid _ => invalid is
  | invalid is, invalid js => invalid (is ++ js)

/-- A checked value of a function. -/
def map {α β : Type} (f : α → β) : Checked α → Checked β
  | valid a => valid (f a)
  | invalid is => invalid is

/-- The issues of a nested model, seen from the model around it. -/
def within {α : Type} (name : String) : Checked α → Checked α
  | valid a => valid a
  | invalid is => invalid (is.map fun i => { i with path := name :: i.path })

/-- One field: its default if the data does not give it. -/
def field {α : Type} (data : Value) (name : String) (default : α)
    (read : Value → Coercion.Read α) : Checked α :=
  match data.field? name with
  | none => valid default
  | some v =>
    match read v with
    | .ok a => valid a
    | .error rule => invalid [⟨[name], rule⟩]

/-- One field that is a model of its own. -/
def model {α : Type} (data : Value) (name : String) (default : α) (check : Value → Checked α) :
    Checked α :=
  match data.field? name with
  | none => valid default
  | some v => (check v).within name

/-- Refuses data that is no mapping. -/
def mapping {α : Type} (name : String) (check : Value → Checked α) : Value → Checked α
  | .mapping entries => check (.mapping entries)
  | _ => invalid [⟨[], .modelType name⟩]

/-- The value, or a failure that lists the issues. -/
def toExcept {α : Type} (failure : List Issue → Failure) : Checked α → Except Failure α
  | valid a => .ok a
  | invalid is => .error (failure is)

end Checked

open Checked Coercion

/-- Checks the store's settings. -/
def StoreSettings.validate : Value → Checked StoreSettings :=
  mapping "RedisSettings" fun d =>
    let defaults : StoreSettings := {}
    (field d "host" defaults.host asText).map StoreSettings.mk
      |>.apply (field d "port" defaults.port (intBetween 0 65536))
      |>.apply (field d "db" defaults.database (intAtLeast 0))
      |>.apply (field d "password" defaults.password (optional asText))
      |>.apply (field d "url" defaults.url (optional asText))
      |>.apply (field d "connect_timeout_seconds" defaults.connectTimeout positiveFloat)
      |>.apply (field d "socket_timeout_seconds" defaults.socketTimeout (optional positiveFloat))
      |>.apply (field d "reconnect_attempts" defaults.reconnectAttempts (intAtLeast 0))
      |>.apply (field d "reconnect_backoff_seconds" defaults.reconnectBackoff nonNegativeFloat)
      |>.apply (field d "decode_responses" defaults.decodesReplies asBool)

/-- Checks lock settings. -/
def LockSettings.validate : Value → Checked LockSettings :=
  mapping "LockSettings" fun d =>
    let defaults : LockSettings := {}
    (field d "key_prefix" defaults.keyPrefix asText).map LockSettings.mk
      |>.apply (field d "default_ttl_ms" defaults.defaultTtl (intAbove 0))
      |>.apply (field d "poll_interval_ms" defaults.pollInterval (intAbove 0))
      |>.apply (field d "wait_timeout_ms" defaults.waitTimeout (intAtLeast 0))
      |>.apply (field d "max_retries" defaults.maxRetries (intAtLeast 1))

/-- Checks all settings. -/
def Settings.validate : Value → Checked Settings :=
  mapping "CoordSettings" fun d =>
    (model d "redis" {} StoreSettings.validate).map Settings.mk
      |>.apply (model d "locks" {} LockSettings.validate)

end Leasehold

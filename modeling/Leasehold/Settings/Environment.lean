import Leasehold.Environment
import Leasehold.Settings.Validation

/-!
# Settings from environment variables

- **Variables** (`Settings.storeFields`, `Settings.lockFields`): the field that each one sets. The
  first that should write a number and does not is the failure.
- **Settings** (`Settings.ofEnvironment`): what is set goes through validation; all else has its
  default.
-/

namespace Leasehold.Settings

/-- A field and its value, if there is one. -/
abbrev FieldValue := String × Option Value

/-- A field of text. -/
def textField (env : Environment) (field name : String) : Except Failure FieldValue :=
  .ok (field, (env.text? name).map .text)

/-- A field of whole numbers. -/
def intField (env : Environment) (field name : String) : Except Failure FieldValue :=
  (env.int? name).map fun n => (field, n.map .int)

/-- A field of numbers. -/
def floatField (env : Environment) (field name : String) : Except Failure FieldValue :=
  (env.float? name).map fun x => (field, x.map .float)

/-- The fields of the store's settings. -/
def storeFields (env : Environment) : List (Except Failure FieldValue) := [
  textField env "host" "REDIS_HOST",
  intField env "port" "REDIS_PORT",
  intField env "db" "REDIS_DB",
  textField env "password" "REDIS_PASSWORD",
  textField env "url" "REDIS_URL",
  floatField env "connect_timeout_seconds" "REDIS_CONNECT_TIMEOUT",
  floatField env "socket_timeout_seconds" "REDIS_SOCKET_TIMEOUT",
  intField env "reconnect_attempts" "REDIS_RECONNECT_ATTEMPTS",
  floatField env "reconnect_backoff_seconds" "REDIS_RECONNECT_BACKOFF"]

/-- The fields of lock settings. -/
def lockFields (env : Environment) : List (Except Failure FieldValue) := [
  textField env "key_prefix" "REDISCOORD_LOCK_PREFIX",
  intField env "default_ttl_ms" "REDISCOORD_LOCK_TTL_MS",
  intField env "poll_interval_ms" "REDISCOORD_LOCK_POLL_MS",
  intField env "wait_timeout_ms" "REDISCOORD_LOCK_WAIT_MS",
  intField env "max_retries" "REDISCOORD_TX_MAX_RETRIES"]

/-- The fields that have a value. -/
def given (fields : List FieldValue) : Value :=
  .record (fields.filterMap fun f => f.2.map (f.1, ·))

/-- The settings that environment variables describe. -/
def ofEnvironment (env : Environment) : Except Failure Settings := do
  let store ← (storeFields env).mapM id
  let locks ← (lockFields env).mapM id
  let data := Value.record [("redis", given store), ("locks", given locks)]
  (Settings.validate data).toExcept fun issues => .of (.invalidSettings .environment issues)

end Leasehold.Settings

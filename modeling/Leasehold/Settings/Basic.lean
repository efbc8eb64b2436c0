import Leasehold.Value

/-!
# Settings

Where the shared store lives, and the defaults of lock and transaction parameters.

- **Records** (`StoreSettings`, `LockSettings`, `Settings`), with their defaults. What validation
  accepts keeps to the ranges of `Leasehold.Settings.Validation`.
- **Dumps** (`Settings.dump`): all fields by name, in order.
-/

namespace Leasehold

/-- How to reach the store and how hard to try. A URL takes precedence over host, port, database
and password. -/
structure StoreSettings where
  host : String := "localhost"
  port : Int := 6379
  database : Int := 0
  password : Option String := none
  url : Option String := none
  connectTimeout : Binary64 := .ofInt 5
  socketTimeout : Option Binary64 := none
  reconnectAttempts : Int := 3
  reconnectBackoff : Binary64 := .ofInt 1
  decodesReplies : Bool := true
deriving DecidableEq, Repr

/-- Parameters that apply when callers leave them out, in milliseconds but for the last. -/
structure LockSettings where
  keyPrefix : String := ""
  defaultTtl : Int := 10000
  pollInterval : Int := 100
  waitTimeout : Int := 5000
  maxRetries : Int := 3
deriving DecidableEq, Repr

/-- All settings. -/
structure Settings where
  store : StoreSettings := {}
  locks : LockSettings := {}
deriving DecidableEq, Repr

/-- A text that may be absent. -/
def Value.ofText? : Option String → Value
  | none => .null
  | some s => .text s

/-- A number that may be absent. -/
def Value.ofFloat? : Option Binary64 → Value
  | none => .null
  | some x => .float x

/-- A mapping with text keys. -/
def Value.record (fields : List (String × Value)) : Value :=
  .mapping (fields.map fun f => (.text f.1, f.2))

/-- All fields of the store's settings. -/
def StoreSettings.dump (s : StoreSettings) : Value :=
  .record [
    ("host", .text s.host),
    ("port", .int s.port),
    ("db", .int s.database),
    ("password", .ofText? s.password),
    ("url", .ofText? s.url),
    ("connect_timeout_seconds", .float s.connectTimeout),
    ("socket_timeout_seconds", .ofFloat? s.socketTimeout),
    ("reconnect_attempts", .int s.reconnectAttempts),
    ("reconnect_backoff_seconds", .float s.reconnectBackoff),
    ("decode_responses", .bool s.decodesReplies)]

/-- All fields of the lock settings. -/
def LockSettings.dump (s : LockSettings) : Value :=
  .record [
    ("key_prefix", .text s.keyPrefix),
    ("default_ttl_ms", .int s.defaultTtl),
    ("poll_interval_ms", .int s.pollInterval),
    ("wait_timeout_ms", .int s.waitTimeout),
    ("max_retries", .int s.maxRetries)]

/-- All fields. -/
def Settings.dump (s : Settings) : Value :=
  .record [("redis", s.store.dump), ("locks", s.locks.dump)]

end Leasehold

import Leasehold.Failure.Basic
import Leasehold.Settings.Basic
import Leasehold.Session.Action
import Leasehold.Url.Query

/-!
# Connections

What a client needs to know to reach the store.

- **Options** (`Connection.Options`): named values, of which a later one replaces an earlier one.
- **URLs** (`Connection.ofUrl`): the query comes first, and the parts of the URL replace what it
  says; a database in the query wins over one in the path. What the URL does not say stays open.
- **Settings** (`Connection.ofSettings`): a URL, if there is one, or else host, port, database and
  password.
- **Clients** (`Connection.client`): a URL may hold any option, but a connection does not take every one
  (`Connection.isTaken`). Nothing says so before the first command.
-/

namespace Leasehold

/-- How a connection is made. -/
inductive Transport where
  | plain
  | encrypted
  | socketFile
deriving DecidableEq, Repr

/-- A connection that is not open yet. -/
structure Connection where
  transport : Transport
  options : List (String × Value)
  retries : Int
  backoff : Binary64

namespace Connection

/-- Named values. -/
abbrev Options := List (String × Value)

/-- Sets an option. -/
def setOption (name : String) (v : Value) (os : Options) : Options :=
  os.filter (fun o => o.1 != name) ++ [(name, v)]

/-- Sets options one after the other. -/
def setOptions (new os : Options) : Options := new.foldl (fun os o => setOption o.1 o.2 os) os

/-- The value of an option, null if it is not set. -/
def option (c : Connection) (name : String) : Value := (c.options.lookup name).getD .null

/-- A failure of a caller's value. -/
def refusal (message : String) : Failure := .plain .value message

/-- The kinds of options that are no texts. -/
inductive OptionKind where
  | whole
  | number
  | flag

/-- The options of a query that are no texts. -/
def optionKinds : List (String × OptionKind) := [
  ("db", .whole), ("socket_timeout", .number), ("socket_connect_timeout", .number),
  ("timeout", .number), ("socket_keepalive", .flag), ("retry_on_timeout", .flag),
  ("ssl_check_hostname", .flag), ("max_connections", .whole), ("health_check_interval", .whole)]

/-- The words that mean false in a query. -/
def falseWords : List String := ["0", "F", "FALSE", "N", "NO"]

/-- The value of an option of a query. -/
def optionValue? (name text : String) : Option Value :=
  match optionKinds.lookup name with
  | none => some (.text text)
  | some .whole => (Numeral.readInteger? text).map .int
  | some .number => (Numeral.readDecimal? text).map .float
  | some .flag =>
    some (if text.isEmpty then .null else .bool (!falseWords.contains (Text.toCapital text)))

/-- An option of a query; its value is unescaped once more. -/
def queryOption (field : String × String) : Except Failure (String × Value) :=
  match optionValue? field.1 (Percent.decode field.2) with
  | some v => .ok (field.1, v)
  | none => .error (refusal ("Invalid value for '" ++ field.1 ++ "' in connection URL."))

/-- A piece of a URL as an option, unless it is absent or empty. -/
def pieceOption (name : String) (cs : Option (List Char)) : Options :=
  match cs with
  | none => []
  | some cs => if cs.isEmpty then [] else [(name, .text (Percent.decode (String.ofList cs)))]

/-- The database that a path names, if it names one. -/
def databaseOption (u : Url) (os : Options) : Options :=
  if u.path.isEmpty || (os.lookup "db").isSome then []
  else
    let digits := (Percent.decode u.path).toList.filter (· != '/')
    match Numeral.readInteger? (String.ofList digits) with
    | some n => [("db", .int n)]
    | none => []

/-- The host and the port of a URL. -/
def addressOptions (u : Url) : Except Failure Options := do
  let host := match u.host? with
    | some h => [("host", Value.text (Percent.decode h))]
    | none => []
  let port ← (u.port?).mapError fun e => refusal e.text
  .ok (host ++ match port with
    | some 0 => []
    | some p => [("port", .int p)]
    | none => [])

/-- The transport and the options that a URL asks for. -/
def ofUrl (s : String) : Except Failure (Transport × Options) := do
  let u ← (Url.split s).mapError fun e => refusal e.text
  let fromQuery ← u.firstFields.mapM queryOption
  let (name, password) := u.credentials
  let os := setOptions (pieceOption "username" name ++ pieceOption "password" password) fromQuery
  match u.scheme with
  | "unix" => .ok (.socketFile, setOptions (pieceOption "path" (some u.path.toList)) os)
  | "redis" | "rediss" =>
    let address ← addressOptions u
    let os := setOptions (address ++ databaseOption u os) os
    .ok (if u.scheme == "redis" then .plain else .encrypted, os)
  | _ =>
    .error (refusal
      "Redis URL must specify one of the following schemes (redis://, rediss://, unix://)")

/-- Refuses a negative number of connections. -/
def checkConnections (os : Options) : Except Failure Unit :=
  match os.lookup "max_connections" with
  | some (.int n) =>
    if n < 0 then .error (refusal "\"max_connections\" must be a positive integer") else .ok ()
  | _ => .ok ()

/-- The options that settings give to every connection. -/
def commonOptions (s : StoreSettings) : Options := [
  ("socket_connect_timeout", .float s.connectTimeout),
  ("socket_timeout", .ofFloat? s.socketTimeout),
  ("decode_responses", .bool s.decodesReplies)]

/-- The URL of settings, if it is there and not empty. -/
def url? (s : StoreSettings) : Option String := s.url.filter (!·.isEmpty)

/-- The connection that settings describe. -/
def ofSettings (s : StoreSettings) : Except Failure Connection :=
  match url? s with
  | some url => do
    let (transport, os) ← ofUrl url
    let os := setOptions os (commonOptions s)
    checkConnections os
    .ok ⟨transport, os, s.reconnectAttempts, s.reconnectBackoff⟩
  | none =>
    let os := commonOptions s ++ [
      ("host", .text s.host), ("port", .int s.port), ("db", .int s.database),
      ("password", .ofText? s.password)]
    .ok ⟨.plain, os, s.reconnectAttempts, s.reconnectBackoff⟩

/-- The failures after which a command is tried again. -/
def retriedKinds : List Kind := [.storeConnection, .storeTimeout]

/-- The options that every connection takes as a URL gives them. -/
def takenOptions : List String := [
  "db", "username", "password", "client_name", "lib_name", "lib_version", "socket_timeout",
  "socket_connect_timeout", "retry_on_timeout", "health_check_interval", "max_connections",
  "decode_responses"]

/-- Further options that are taken with one of their values. -/
def fixedOptions : List (String × String) := [
  ("encoding", "utf-8"), ("encoding_errors", "strict"), ("protocol", "2")]

/-- The options that depend on the transport. -/
def transportOptions : Transport → List String
  | .plain => ["host", "port", "socket_keepalive"]
  | .encrypted => ["host", "port", "socket_keepalive", "ssl_check_hostname"]
  | .socketFile => ["path"]

/-- Whether a connection takes an option. -/
def isTaken (t : Transport) (name : String) (v : Value) : Bool :=
  takenOptions.contains name || (transportOptions t).contains name ||
    match v with
    | .text s => fixedOptions.lookup name == some s
    | _ => false

/-- The client of a connection. -/
def client (c : Connection) : Client where
  database := match c.option "db" with
    | .int n => n
    | _ => 0
  decodes := (c.option "decode_responses").isTruthy
  strays := (c.options.filter fun o => !isTaken c.transport o.1 o.2).map (·.1)

end Connection
end Leasehold

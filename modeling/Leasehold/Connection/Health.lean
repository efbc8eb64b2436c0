import Leasehold.Connection
import Leasehold.Text.Search

/-!
# Signs of life

- **Connecting** (`Connection.connect`): a client is handed out only after the server answered. When
  the connection fails the client is closed; every other failure is passed on.
- **Health** (`Connection.checkHealth`): whether the server answers now.

How the server is asked is a parameter of both.
-/

namespace Leasehold.Connection

/-- Where settings lead, as the log names it. -/
def target (s : StoreSettings) : String :=
  match url? s with
  | some url => url
  | none => s.host ++ ":" ++ toString s.port

/-- Whether a failure says that nothing listens at the other end. -/
def isRefused (f : Failure) : Bool :=
  f.context.any (·.isA .connectionRefused) ||
    Text.isPart "refused".toList (Text.toSmall f.text).toList

/-- The line of the log for a connection that failed. -/
def failureLine (target : String) (f : Failure) : String :=
  if isRefused f then "Redis connection refused at " ++ target ++ " - is Redis running?"
  else "Failed to connect to Redis at " ++ target ++ ": " ++ f.text

/-- Asks for a sign of life and counts that. -/
def probe (ping : Action Value) : Action Value :=
  .of fun s => ping.perform { s with pings := s.pings + 1 }

/-- Closes a client. -/
def close : Action Unit := .of fun s => (.ok (), { s with closes := s.closes + 1 })

/-- Makes a client and hands it out once the server answered. -/
def connect (settings : StoreSettings) (ping : Client → Action Value) : Action Client := do
  let c ← Action.ofExcept (ofSettings settings)
  try
    let _ ← probe (ping c.client)
  catch f =>
    if f.isConnectivity then
      Action.report .error (failureLine (target settings) f)
      close
      throw (f.unavailable "connect" none)
    else throw f
  Action.report .info ("Connected to Redis at " ++ target settings)
  return c.client

/-- Whether the server answers. -/
def checkHealth (ping : Action Value) : Action Bool := do
  try
    return (← ping).isTruthy
  catch f =>
    if f.isConnectivity then
      Action.report .warning ("Redis health check failed: " ++ f.text)
      return false
    else throw f

end Leasehold.Connection

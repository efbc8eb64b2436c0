import Leasehold.Failure.Surfacing
import Leasehold.Session.Basic

/-!
# Actions

An action works on a session and ends with a value or a failure; what it changed before a failure
stays changed.

- **Issuing commands** (`Action.reach`, `Client.issue`): a command fails if a failure is arranged
  for its point or the server cannot be reached, and then changes nothing.
- **Asking** (`Client.ask`): issuing a command and reading its reply, which fails when the client
  turns replies into text and cannot.
- **Surfacing** (`Action.surfacing`): failures of the connection arise as callers meet them.
- **Time, log and identifiers** (`Action.sleep`, `Action.report`, `Action.freshIdentifier`).
-/

namespace Leasehold

/-- Something done in a session, with a value or a failure at its end. -/
abbrev Action := ExceptT Failure (StateM Session)

namespace Action

/-- Does an action in a session. -/
def perform {α : Type} (a : Action α) (s : Session) : Except Failure α × Session := a s

/-- An action from what it does. -/
def of {α : Type} (f : Session → Except Failure α × Session) : Action α := f

/-- The failure of a command that does not reach the server. -/
def unreachable : Failure := .plain .storeConnection "FakeRedis is emulating a connection error."

/-- Gets through to the server with a command issued at a point. A failure that arises here
interrupts the handling of the one that is being handled, if any. -/
def reach (p : Point) : Action Unit := of fun s =>
  match s.takeFault p with
  | (some f, s) => (.error (f.during s.handling), s)
  | (none, s) => (if s.isUp then .ok () else .error (unreachable.during s.handling), s)

/-- An action whose failures of the connection arise as callers of an operation meet them. -/
def surfacing {α : Type} (operation : String) (key : Option String) (a : Action α) : Action α :=
  of fun s =>
    match a.perform s with
    | (.error f, s) => (.error (f.surfaced operation key), s)
    | done => done

/-- A value, or a failure. -/
def ofExcept {α : Type} (e : Except Failure α) : Action α := of fun s => (e, s)

/-- Lets milliseconds pass. -/
def sleep (ms : Nat) : Action Unit := of fun s => (.ok (), s.pass ms)

/-- Adds a line to the log. -/
def report (level : Level) (message : String) : Action Unit :=
  of fun s => (.ok (), s.report level message)

/-- A number in twelve digits, or in more if it needs them. -/
def twelveDigits (n : Nat) : String :=
  let ds := Nat.toDigits 10 n
  String.ofList (List.replicate (12 - ds.length) '0' ++ ds)

/-- An identifier that the session has not given out before. -/
def freshIdentifier : Action String := of fun s =>
  let n := s.identifiers + 1
  (.ok ("00000000-0000-4000-8000-" ++ twelveDigits n), { s with identifiers := n })

end Action

/-- A client of the server: the number of its database, whether it turns replies into text, and the
options that it was made with but that no connection takes. -/
structure Client where
  database : Int := 0
  decodes : Bool := true
  strays : List String := []
deriving DecidableEq, Repr

namespace Client

/-- Issues a command at a point; a refusal is a failure. -/
def issue (c : Client) (p : Point) (effect : Int → Store → Effect) : Action Reply := do
  Action.reach p
  Action.of fun s =>
    match s.apply c.database effect with
    | (.ok r, _, s) => (.ok r, s)
    | (.error why, _, s) => (.error (.ofRefusal why), s)

/-- The reply to a named command as the client hands it on. -/
def handOn (c : Client) (name : String) (r : Reply) : Except Failure Value :=
  match Request.read c.decodes r with
  | .ok v => .ok (Request.converted (some name) v)
  | .error e => .error (.of (.undecodable e))

/-- Issues a named command at a point and hands on its reply. -/
def ask (c : Client) (p : Point) (name : String) (effect : Int → Store → Effect) :
    Action Value := do
  let reply ← c.issue p effect
  Action.ofExcept (c.handOn name reply)

/-- Prepares a connection, which is when stray options show. -/
def dial (c : Client) : Except Failure Unit :=
  match c.strays with
  | [] => .ok ()
  | name :: _ => .error (.plain .argument
      ("AbstractConnection.__init__() got an unexpected keyword argument '" ++ name ++ "'"))

/-- Asks for a sign of life. A client asks for that first, so its database is chosen along with it. -/
def greeting (c : Client) (count : Nat) (now : Int) (d : Store) : Effect :=
  .choosing count c.database d (Command.run now d (.ping none))

/-- Asks the server for a sign of life. -/
def ping (c : Client) : Action Value := do
  Action.ofExcept c.dial
  let s ← get
  let _ ← c.issue .ping (c.greeting s.databaseCount)
  return .bool true

end Client
end Leasehold

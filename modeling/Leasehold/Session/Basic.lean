import Leasehold.Failure.Basic
import Leasehold.Store.Request

/-!
# Sessions

What the operations of this library work on: a clock, a server with its databases, whatever is
arranged to happen, and what was logged.

- **Time** (`Session.passTo`): instants are milliseconds of the epoch. Events that are due on the
  way happen in order, each at its own instant (`Session.through` also tells what they touched).
- **The server** (`Session.database`, `Session.apply`): its databases keep their entries while it
  cannot be reached.
- **Other clients** (`Happening.run`): they always reach the server, and what is refused to them
  changes nothing.
- **Arranged failures** (`Session.takeFault`): for each point at which a command is issued, what
  happens to the next commands there.
-/

namespace Leasehold

/-- Where a command is issued. -/
inductive Point where
  | set
  | get
  | count
  | script
  | ping
  | watch
  | commit
deriving DecidableEq, Repr

/-- How much a line of the log matters. -/
inductive Level where
  | debug
  | info
  | warning
  | error
deriving DecidableEq, Repr

/-- A line of the log. -/
structure LogLine where
  level : Level
  message : String
deriving DecidableEq, Repr

/-- What happens from outside. -/
inductive Happening where
  /-- Another client sends a request. -/
  | request (r : Request)
  /-- The server goes down or comes back. -/
  | server (isUp : Bool)

/-- Something that happens at an instant. -/
structure Event where
  due : Int
  happening : Happening

/-- Everything that an operation can see or change. The log has its latest line first; `handling` is
the failure that is on its way while something is cleaned up; `pings` and `closes` count how often a
new client asked for a sign of life and how often one was closed. The databases of the server have the
numbers below `databaseCount`. -/
structure Session where
  clock : Int
  isUp : Bool
  databases : List (Int × Store)
  faults : List (Point × Option Failure)
  events : List Event
  isLogging : Bool
  log : List LogLine
  identifiers : Nat
  handling : Option Failure
  pings : Nat := 0
  closes : Nat := 0
  databaseCount : Nat := 16

namespace Session

/-- The instant at which a session starts. -/
def epoch : Int := 1700000000000

/-- A session at its start: the server is up and empty, and nothing is arranged. -/
def start (isLogging : Bool) : Session :=
  ⟨epoch, true, [], [], [], isLogging, [], 0, none, 0, 0, 16⟩

/-- A database by its number. -/
def database (s : Session) (n : Int) : Store := (s.databases.lookup n).getD .empty

/-- Replaces a database. -/
def withDatabase (s : Session) (n : Int) (d : Store) : Session :=
  { s with databases := (n, d) :: s.databases.filter fun e => e.1 != n }

/-- Lets a command work on a database: its reply, the keys it touched, and the session after it. -/
def apply (s : Session) (n : Int) (effect : Int → Store → Effect) :
    Except Refusal Reply × List Bytes × Session :=
  let e := effect s.clock (s.database n)
  (e.reply, e.touched, s.withDatabase n e.store)

/-- The database that other clients work on. -/
def shared : Int := 0

/-- Runs the request of another client, if it can be sent at all, and names the keys it touched. -/
def serve (s : Session) (r : Request) : List (Int × Bytes) × Session :=
  match r.wire? with
  | none => ([], s)
  | some words =>
    let (_, touched, s) := s.apply shared fun now d => (Request.meaning words).run now d
    (touched.map (shared, ·), s)

end Session

/-- Lets something happen; the databases and keys that it touched. -/
def Happening.run (h : Happening) (s : Session) : List (Int × Bytes) × Session :=
  match h with
  | .request r => s.serve r
  | .server isUp => ([], { s with isUp })

namespace Session

/-- Lets an event happen at its instant; the databases and keys that it touched. -/
def happen (s : Session) (e : Event) : List (Int × Bytes) × Session :=
  e.happening.run { s with clock := e.due }

/-- Lets events happen one after the other; the databases and keys that they touched. -/
def happenAll (s : Session) : List Event → List (Int × Bytes) × Session
  | [] => ([], s)
  | e :: rest =>
    let (touched, s) := s.happen e
    let (more, s) := s.happenAll rest
    (touched ++ more, s)

/-- Lets time pass until an instant, and all that is due by then happen on the way; the databases
and keys that were touched meanwhile. -/
def through (s : Session) (instant : Int) : List (Int × Bytes) × Session :=
  let due := s.events.takeWhile fun e => decide (e.due ≤ instant)
  let later := s.events.dropWhile fun e => decide (e.due ≤ instant)
  let (touched, s) := { s with events := later }.happenAll due
  (touched, { s with clock := instant })

/-- Lets time pass until an instant. -/
def passTo (s : Session) (instant : Int) : Session := (s.through instant).2

/-- Lets milliseconds pass. -/
def pass (s : Session) (ms : Int) : Session := s.passTo (s.clock + ms)

/-- Replaces what is arranged to happen, in the order of its instants; what is due happens now. -/
def expecting (s : Session) (events : List Event) : Session :=
  let s := { s with events := events.mergeSort fun a b => decide (a.due ≤ b.due) }
  s.passTo s.clock

/-- Takes the next arranged failure for a point out of a list. -/
def takeFrom (p : Point) : List (Point × Option Failure) →
    Option Failure × List (Point × Option Failure)
  | [] => (none, [])
  | (q, f) :: rest =>
    if q = p then (f, rest)
    else
      let (found, rest) := takeFrom p rest
      (found, (q, f) :: rest)

/-- Takes the next arranged failure for a point, if the next command there is to fail. -/
def takeFault (s : Session) (p : Point) : Option Failure × Session :=
  let (found, rest) := takeFrom p s.faults
  (found, { s with faults := rest })

/-- Forgets what is arranged for a point. -/
def clear (s : Session) (p : Point) : Session :=
  { s with faults := s.faults.filter fun f => f.1 != p }

/-- Arranges what happens to the next commands at a point, after what is arranged already. -/
def arrange (s : Session) (p : Point) (faults : List (Option Failure)) : Session :=
  { s with faults := s.faults ++ faults.map (p, ·) }

/-- Adds a line to the log. -/
def report (s : Session) (level : Level) (message : String) : Session :=
  if s.isLogging then { s with log := ⟨level, message⟩ :: s.log } else s

/-- Takes the lines out of the log, the earliest first. -/
def takeLog (s : Session) : List LogLine × Session := (s.log.reverse, { s with log := [] })

end Session
end Leasehold

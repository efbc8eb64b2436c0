import Leasehold.Session.Action

/-!
# Batches

Requests that a transaction collects and the server runs all at once.

- **Building** (`Move`, `Draft.build`): a build queues requests while other things happen
  (`Interlude`); the draft also records which keys were touched meanwhile.
- **Running** (`Request.runAll`): each request works on what the one before left; one that fails
  leaves everything as it is and stops nothing. The first that fails is reported with its place in the
  batch (`Request.results`).
- **Committing** (`TransactionRunner.commit`): all or nothing. A request that cannot be sent or is
  malformed, a watched key that was touched, and a server that cannot be reached each stop the
  whole batch.
-/

namespace Leasehold

/-- A step of building a batch. -/
inductive Move where
  | queue (r : Request)
  | happening (h : Happening)
  /-- Milliseconds pass. -/
  | pass (ms : Int)
  | raise (f : Failure)

/-- Something that others do during a build. -/
inductive Interlude where
  | happening (h : Happening)
  /-- Milliseconds pass. -/
  | pass (ms : Int)

/-- The step of a build in which others do something. -/
def Interlude.move : Interlude → Move
  | .happening h => .happening h
  | .pass ms => .pass ms

/-- A batch that is being built, and the databases and keys that were touched since its watch. -/
structure Draft where
  requests : List Request := []
  touched : List (Int × Bytes) := []

/-- Makes the moves of a build up to the first that raises a failure. -/
def Draft.build (d : Draft) : List Move → Session → Except Failure Draft × Session
  | [], s => (.ok d, s)
  | .queue r :: rest, s => Draft.build { d with requests := d.requests ++ [r] } rest s
  | .happening h :: rest, s =>
    let (touched, s) := h.run s
    Draft.build { d with touched := d.touched ++ touched } rest s
  | .pass ms :: rest, s =>
    let (touched, s) := s.through (s.clock + ms)
    Draft.build { d with touched := d.touched ++ touched } rest s
  | .raise f :: _, s => (.error f, s)

/-- Runs requests one after the other: their replies, and the database after the last. -/
def Request.runAll (now : Int) : List Request.Meaning → Store → List (Except Refusal Reply) × Store
  | [], d => ([], d)
  | m :: rest, d =>
    let e := m.run now d
    let (replies, d) := runAll now rest e.store
    (e.reply :: replies, d)

/-- The values that the requests of a batch return, of which the first has some place, or else the first
refusal among them. -/
def Request.results (place : Nat) :
    List Request → List (Except Refusal Value) → Except Failure (List Value)
  | _, [] => .ok []
  | _, .error why :: _ => .error (.of (.refused (some place) why))
  | [], .ok v :: rest => (results (place + 1) [] rest).map (v :: ·)
  | r :: rs, .ok v :: rest => (results (place + 1) rs rest).map (converted r.givenName v :: ·)

/-- A reply as a client reads it; a refusal is looked at later. -/
def Request.readOutcome (decodes : Bool) :
    Except Refusal Reply → Except Utf8.DecodeError (Except Refusal Value)
  | .ok r => (read decodes r).map .ok
  | .error why => .ok (.error why)

/-- The failure for requests of which a value cannot be sent. The first such value counts, which may be a
number that is too long. -/
def Request.unsent (requests : List Request) : Failure :=
  match requests.flatten.find? fun v => (argument? v).isNone with
  | some (.int _) => .tooLong
  | _ => .of .unsendable

/-- The failure for a batch with a malformed request: the first one counts. -/
def Request.spoilt (meanings : List Request.Meaning) : Failure :=
  .of (.refused (some (meanings.idxOf .malformed + 1)) .malformed)

/-- Runs transactions of one client. -/
structure TransactionRunner where
  client : Client := {}
  maxRetries : Int := 3

namespace TransactionRunner

/-- A watched key was touched. -/
def changed : Failure := .plain .watch "Watched variable changed."

/-- The connection was lost while keys were watched. -/
def brokenWatch : Failure :=
  (Failure.plain .watch "A ConnectionError occurred on while watching one or more keys").during
    (some Action.unreachable)

/-- Whether a draft saw a watched key touched. -/
def isDirty (r : TransactionRunner) (keys : List String) (d : Draft) : Bool :=
  keys.any fun k => d.touched.contains (r.client.database, Utf8.encode k)

/-- Has the server run a batch whose requests are understood. -/
def execute (r : TransactionRunner) (requests : List Request) (meanings : List Request.Meaning) :
    Action (List Value) := .of fun s =>
  let (replies, d) := Request.runAll s.clock meanings (s.database r.client.database)
  let s := s.withDatabase r.client.database d
  match replies.mapM (Request.readOutcome r.client.decodes) with
  | .error e => (.error (.of (.undecodable e)), s)
  | .ok values => (Request.results 1 requests values, s)

/-- Has the server run a batch under the watched keys, unless something stops it. -/
def commit (r : TransactionRunner) (keys : List String) (d : Draft) : Action (List Value) :=
  .of fun s =>
    match s.takeFault .commit with
    | (some f, s) => (.error (f.during s.handling), s)
    | (none, s) =>
      if !s.isUp && keys.isEmpty then (.error Action.unreachable, s)
      else
        match d.requests.mapM Request.wire? with
        | none => (.error (Request.unsent d.requests), s)
        | some sent =>
          let meanings := sent.map Request.meaning
          if !s.isUp then (.error brokenWatch, s)
          else if meanings.contains .malformed then (.error (Request.spoilt meanings), s)
          else if r.isDirty keys d then (.error changed, s)
          else (r.execute d.requests meanings).perform s

end TransactionRunner
end Leasehold

import Leasehold.Json.Printer
import Leasehold.Json.Parser
import Leasehold.Retry
import Leasehold.Text.Letter
import Leasehold.Transaction.Batch

/-!
# Optimistic transactions

A transaction watches keys, builds a batch and commits it. If a watched key was touched meanwhile
nothing is applied, and the whole attempt starts again, a bounded number of times.

- **Attempts** (`attempt`): a connection lost while watching or committing is a failure of its own
  and no conflict.
- **Conflicts** (`notify`): each is logged and told to a hook, which may raise a failure.
- **Runs** (`run`): the results of the batch, or a failure that names the watched keys.
- **Unconditional batches** (`runBatch`) and **exchanges of JSON values** (`exchange`, `getAndSet`).
-/

namespace Leasehold

/-- What the builds of a transaction do, by the number of the call. -/
abbrev Build := Nat → List Move

/-- What a hook raises when it is told of a conflict, by the number of the attempt. -/
abbrev Hook := Nat → Failure → Option Failure

/-- A session in the course of a transaction: how often a batch was built, and what the hook was
told. -/
structure Progress where
  session : Session
  builds : Nat := 0
  notified : List (Nat × Failure) := []

namespace Progress

/-- Does an action in the session. -/
def doing {α : Type} (a : Action α) : Retry.Step Progress α := fun p =>
  let (outcome, session) := a.perform p.session
  (outcome, { p with session })

/-- Makes the next build. -/
def building (build : Build) : Retry.Step Progress Draft := fun p =>
  let builds := p.builds + 1
  let (outcome, session) := Draft.build {} (build builds) p.session
  (outcome, { p with session, builds })

/-- Tells the hook of a conflict. -/
def telling (hook : Hook) (number : Nat) (f : Failure) : Retry.Step Progress Unit := fun p =>
  let p := { p with notified := p.notified ++ [(number, f)] }
  match hook number f with
  | some g => (.error g, p)
  | none => (.ok (), p)

end Progress

namespace TransactionRunner

open Progress

/-- How failures name the watched keys, if there is anything to name. -/
def keyName (keys : List String) : Option String :=
  let name := String.intercalate "," keys
  if name.isEmpty then none else some name

/-- One attempt: watches, builds, and commits if anything is queued. -/
def attempt (r : TransactionRunner) (keys : List String) (build : Build) :
    Retry.Step Progress (List Value) := do
  if !keys.isEmpty then
    doing (Action.surfacing "watch" (keyName keys) (Action.reach .watch))
  let draft ← building build
  if draft.requests.isEmpty then
    return []
  doing (Action.surfacing "exec" (keyName keys) (r.commit keys draft))

/-- Logs a conflict and tells the hook, if there is one. -/
def notify (keys : List String) (maxRetries : Value) (hook : Option Hook) (number : Nat)
    (f : Failure) : Retry.Step Progress Unit := do
  doing (Action.report .warning ("Watched keys " ++ Text.quotedList keys ++ " changed, attempt " ++
    toString number ++ "/" ++ maxRetries.quoted ++ " aborted"))
  match hook with
  | some hook => telling hook number f
  | none => return

/-- The failure that callers meet for one that ended the attempts. -/
def concluded (keys : List String) (f : Failure) : Failure :=
  match f.problem with
  | .retryExhausted attempts last =>
    (Failure.of (.transactionConflict keys attempts)).because last
  | _ => f

/-- Runs a transaction in as many attempts as it is allowed. -/
def run (r : TransactionRunner) (keys : List String) (build : Build) (maxRetries : Value)
    (hook : Option Hook) : Retry.Step Progress (List Value) := fun p =>
  let maxRetries := match maxRetries with
    | .null => .int r.maxRetries
    | v => v
  let attempts := Retry.run maxRetries (fun _ => r.attempt keys build)
    (fun f => f.isA .watch) (notify keys maxRetries hook)
  match attempts p with
  | (.error f, p) => (.error (concluded keys f), p)
  | done => done

/-- Runs a transaction in a session, without a hook. -/
def runPlain (r : TransactionRunner) (keys : List String) (build : Build) (maxRetries : Value) :
    Action (List Value) := .of fun s =>
  let (outcome, p) := r.run keys build maxRetries none { session := s }
  (outcome, p.session)

/-- A value as a name of a command. -/
def commandName : Value → String
  | .text s => Text.toCapital s
  | v => Text.toCapital v.quoted

/-- The move that queues a command with its arguments; a command needs a name that can be written. -/
def queueing : List Value → Move
  | [] => .raise (.plain .value "not enough values to unpack (expected at least 1, got 0)")
  | name :: args =>
    if name.isWritable then .queue (.text (commandName name) :: args) else .raise .tooLong

/-- Runs commands all at once, in one attempt and under no condition. -/
def runBatch (r : TransactionRunner) (commands : List (List Value)) : Action (List Value) :=
  r.runPlain [] (fun _ => commands.map queueing) (.int 1)

/-- The JSON value that a text holds. -/
def jsonOf (s : String) : Except Failure Json :=
  (Json.parse s).mapError fun e => .of (.malformedJson e s)

/-- The JSON value that a reply holds; without a reply it is null. -/
def jsonOfReply : Value → Except Failure Json
  | .text s => jsonOf s
  | .bytes b =>
    match Utf8.decode b with
    | .ok s => jsonOf s
    | .error e => .error (.of (.undecodable e))
  | _ => .ok .null

/-- The text of a JSON value. -/
def textOf (v : Json) : Except Failure String :=
  if v.isWritable then .ok v.render else .error .tooLong

/-- Queues reading a key and giving it a text, if there is one to give. -/
def exchanging (key : String) (written : Except Failure String) : List Move :=
  [.queue [.text "GET", .text key],
    match written with
    | .ok text => .queue [.text "SET", .text key, .text text]
    | .error f => .raise f]

/-- Gives a key a text while others do something in each attempt: the JSON value that the key held
before, and whether the text was stored. -/
def exchange (r : TransactionRunner) (key : String) (written : Except Failure String)
    (meanwhile : Nat → List Interlude) : Action (Json × Bool) := do
  let build := fun number => (meanwhile number).map Interlude.move ++ exchanging key written
  match ← r.runPlain [key] build .null with
  | [previous, stored] =>
    let previous ← Action.ofExcept (jsonOfReply previous)
    return (previous, stored.isTruthy)
  | _ => return (.null, false)

/-- Gives a key the text of a JSON value: the value that it held before, and whether it was
stored. -/
def getAndSet (r : TransactionRunner) (key : String) (value : Json) : Action (Json × Bool) :=
  r.exchange key (textOf value) fun _ => []

end TransactionRunner
end Leasehold

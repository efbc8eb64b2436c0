import Leasehold.CommandLine.Arguments
import Leasehold.Connection.Health
import Leasehold.Json.Printer
import Leasehold.Lock.Manager
import Leasehold.Settings.Document
import Leasehold.Settings.Environment

/-!
# Running a command line

- **Endings** (`Ending`): an exit code with one line of output, an exit of the reader of the command
  line, or a failure that nothing handles.
- **Loading** (`loadSettings`): from the file that is named, or else from the environment. What goes
  wrong there is reported and the store is not contacted.
- **Requests** (`perform`): a lock operation and the JSON object that answers it.
- **Exit codes** (`ExitCode`).
-/

namespace Leasehold.CommandLine

/-- How a run ends that was understood. -/
inductive ExitCode where
  | done
  | notHeld
  | usage
  | storeError
deriving DecidableEq, Repr

/-- The number of an exit code. -/
def ExitCode.number : ExitCode → Nat
  | .done => 0
  | .notHeld => 1
  | .usage => 2
  | .storeError => 3

/-- How a run ends. -/
inductive Ending where
  | exited (code : ExitCode) (line : String)
  /-- The command line asked for help or was not understood. -/
  | misread (code : ExitCode)
  | failed (f : Failure)

/-- What the program can look at besides its words, and how many levels deep it can go into a settings
file before its stack is used up. -/
structure Surroundings where
  environment : Environment
  files : String → FileState
  reach : Nat

/-- The settings of a run. -/
def loadSettings (around : Surroundings) (config : Option String) : Except Failure Settings :=
  match config with
  | some path => Settings.ofFile around.files around.reach path
  | none => Settings.ofEnvironment around.environment

/-- Whether a failure to load settings is the fault of who wrote them. -/
def isLoadingFault (f : Failure) : Bool := f.isA .value || f.isA .system || f.isA .document

/-- The answer to a request: the key, what was asked, and its outcome, with the token where one is
shown. -/
structure Answer where
  key : String
  question : String
  outcome : Bool
  token : Option (Option String)

/-- A text or null. -/
def jsonText : Option String → Json
  | some s => .text s
  | none => .null

/-- The members of a JSON object by text names. -/
def jsonObject (ms : List (String × Json)) : Json :=
  .object (ms.map fun m => (CodePoint.ofString m.1, m.2))

/-- An answer as a JSON object. -/
def Answer.toJson (a : Answer) : Json :=
  jsonObject ([("key", .text a.key), (a.question, .bool a.outcome)] ++
    match a.token with
    | some t => [("token", jsonText t)]
    | none => [])

/-- A failure as a line of output. -/
def failureOutput (f : Failure) : String := (jsonObject [("error", .text f.text)]).render

/-- A token that was given and is not empty, or else a fresh one. -/
def givenToken (token : Option String) : Action String :=
  match token with
  | some t => if t.isEmpty then Action.freshIdentifier else pure t
  | none => Action.freshIdentifier

/-- A number that may be absent. -/
def numberValue : Option Int → Value
  | some n => .int n
  | none => .null

/-- Does what is asked for. -/
def perform (m : LockManager) : Request → Action Answer
  | .acquire key token ttl => do
    let t ← givenToken token
    let ok ← m.acquire key (some t) (numberValue ttl)
    return ⟨key, "acquired", ok, some (if ok then some t else none)⟩
  | .release key token => do
    let ok ← m.release key token
    return ⟨key, "released", ok, none⟩
  | .extend key token ttl => do
    let ok ← m.extend key token (.int ttl)
    return ⟨key, "extended", ok, none⟩
  | .status key => do
    let owner ← m.owner? key
    return ⟨key, "locked", owner.isSome, some owner⟩
  | .wait key token ttl interval timeout => do
    let t ← givenToken token
    let ok ← m.wait key (some t) (numberValue ttl) (numberValue interval) (numberValue timeout)
    return ⟨key, "acquired", ok, some (if ok then some t else none)⟩

/-- The ending for a failure of the operation itself. -/
def endingOf (f : Failure) : Action Ending := do
  if f.isA .storeUnavailable then return .exited .storeError (failureOutput f)
  else if f.isA .coordination then
    Action.report .error f.text
    return .exited .usage (failureOutput f)
  else return .failed f

/-- Connects, does what is asked for, and closes the client. -/
def runRequest (settings : Settings) (r : Request) : Action Ending := do
  let connected ← try Except.ok <$> Connection.connect settings.store Client.ping
    catch f => pure (Except.error f)
  match connected with
  | .error f =>
    if f.isA .storeUnavailable then return .exited .storeError (failureOutput f)
    else return .failed f
  | .ok client =>
    let m : LockManager := { client, settings := settings.locks }
    let ending ← try
        let a ← perform m r
        pure (Ending.exited (if a.outcome then .done else .notHeld) a.toJson.render)
      catch f => endingOf f
    Connection.close
    return ending

/-- Runs what was understood. -/
def runArguments (around : Surroundings) (a : Arguments) : Action Ending := do
  match loadSettings around a.config with
  | .ok settings => runRequest settings a.request
  | .error f =>
    if isLoadingFault f then
      Action.report .error ("Cannot load settings: " ++ f.text)
      return .exited .usage (failureOutput f)
    else return .failed f

/-- Runs a command line. -/
def run (around : Surroundings) (words : List String) : StateM Session Ending := fun s =>
  match Arguments.read words with
  | .error .help => (.misread .done, s)
  | .error .usage => (.misread .usage, s)
  | .error (.failure f) => (.failed f, s)
  | .ok a =>
    match (runArguments around a).perform s with
    | (.ok ending, s) => (ending, s)
    | (.error f, s) => (.failed f, s)

end Leasehold.CommandLine

import Leasehold.CommandLine.Run
import Leasehold.Logger

/-!
# The program

Runs a command line against a store in memory, in a session that has just started.

- **Surroundings** (`surroundingsOf`): the environment variables that settings and loggers read, and
  the settings file that the command line names.
- **Output**: the line of the run on standard output, the lines of the log on standard error, and
  the exit code.
-/

open Leasehold Leasehold.CommandLine

namespace Leasehold.Program

/-- The environment variables that settings and loggers read. -/
def variableNames : List String := [
  "REDIS_HOST", "REDIS_PORT", "REDIS_DB", "REDIS_PASSWORD", "REDIS_URL", "REDIS_CONNECT_TIMEOUT",
  "REDIS_SOCKET_TIMEOUT", "REDIS_RECONNECT_ATTEMPTS", "REDIS_RECONNECT_BACKOFF",
  "REDISCOORD_LOCK_PREFIX", "REDISCOORD_LOCK_TTL_MS", "REDISCOORD_LOCK_POLL_MS",
  "REDISCOORD_LOCK_WAIT_MS", "REDISCOORD_TX_MAX_RETRIES", "REDISCOORD_LOG_LEVEL",
  "REDISCOORD_LOG_RICH"]

/-- The variables of the process that are set. -/
def environmentOf : IO Environment := do
  let mut bindings := []
  for name in variableNames do
    if let some v := ← IO.getEnv name then
      bindings := (name, v) :: bindings
  return ⟨bindings⟩

/-- What a path leads to. -/
def fileState (path : String) : IO FileState := do
  try
    return .contents (← IO.FS.readBinFile path).toList
  catch
    | .inappropriateType .. => return .directory
    | _ => return .missing

/-- How many levels deep the program goes into a settings file. -/
def documentReach : Nat := 450

/-- What the program can look at. -/
def surroundingsOf (words : List String) : IO Surroundings := do
  let environment ← environmentOf
  let state ← match Arguments.read words with
    | .ok ⟨some path, _⟩ => fileState (Path.normal path)
    | _ => pure .missing
  return ⟨environment, fun _ => state, documentReach⟩

/-- The number of a level, by which loggers compare it. -/
def levelNumber : Level → Int
  | .debug => 10
  | .info => 20
  | .warning => 30
  | .error => 40

/-- Prints the lines of the log that matter enough. -/
def printLog (env : Environment) (lines : List LogLine) : IO Unit := do
  let least := Logger.effectiveLevel env 20
  for l in lines do
    if least ≤ levelNumber l.level then IO.eprintln l.message

/-- Prints what a run ends with; the exit code. -/
def printEnding : Ending → IO Nat
  | .exited code line => do
    IO.println line
    return code.number
  | .misread code => do
    IO.eprintln "usage: rediscoord [-h] [--config CONFIG] \x7bacquire,release,extend,status,wait\x7d ..."
    return code.number
  | .failed f => do
    IO.eprintln f.text
    return 1

end Leasehold.Program

/-- Runs the command line of the process. -/
def main (words : List String) : IO UInt32 := do
  let around ← Program.surroundingsOf words
  let (ending, s) := CommandLine.run around words (Session.start true)
  Program.printLog around.environment s.takeLog.1
  let code ← Program.printEnding ending
  return UInt32.ofNat code

import Leasehold.Lock.Parameter
import Leasehold.Session.Action
import Leasehold.Settings.Basic

/-!
# Lock managers

A lock is a key of the store that holds a token and has a deadline. A manager keeps no state of its
own, so all managers with one prefix and one database are interchangeable.

- **Taking** (`acquire`): only when the key is absent.
- **Giving back and prolonging** (`release`, `extend`): only while the key holds the token, which
  the server compares and acts on in one step.
- **Looking** (`isLocked`, `owner?`): out of date as soon as it is answered.
- **Waiting** (`wait`): polls at fixed intervals, and once more when the time is up. It goes by a clock
  that counts seconds in floating point, which cannot count times of more than three hundred digits.

Contention is an answer and no failure. Parameters are checked before anything else happens.
-/

namespace Leasehold

/-- Locks in one database under one prefix of keys. -/
structure LockManager where
  client : Client := {}
  settings : LockSettings := {}
  keyPrefix : String := settings.keyPrefix

namespace LockManager

/-- A truth value as a line of the log shows it. -/
def word (b : Bool) : String := (Value.bool b).quoted

/-- The key of the store for a lock. -/
def storeKey (m : LockManager) (key : String) : String := m.keyPrefix ++ key

/-- The token of a caller who gives none: the milliseconds of the epoch. Two callers in one
millisecond get the same. -/
def defaultToken : Action String := .of fun s => (.ok (toString s.clock), s)

/-- The token of a caller. -/
def tokenOr (token : Option String) : Action String :=
  match token with
  | some t => pure t
  | none => defaultToken

/-- The lifetime that a caller asks for. -/
def lifetime (m : LockManager) (ttl : Value) : Except Failure Period :=
  Parameter.period "ttl_ms" (Parameter.orDefault ttl m.settings.defaultTtl)

/-- Takes a lock for a lifetime if nobody holds it. -/
def take (m : LockManager) (key token : String) (ttl : Period) : Action Bool := do
  let k := m.storeKey key
  let answer ← Action.surfacing "acquire" (some k) <|
    m.client.ask .set "SET" fun now d => .sending ttl.val d <|
      Command.run now d (.set (Utf8.encode k) (Utf8.encode token) (some ttl.val) .ifAbsent)
  let acquired := answer.isTruthy
  Action.report .debug ("acquire " ++ k ++ " token=" ++ token ++ " ttl=" ++ toString ttl.val ++
    "ms -> " ++ word acquired)
  return acquired

/-- Takes a lock if nobody holds it; never waits. -/
def acquire (m : LockManager) (key : String) (token : Option String) (ttl : Value) :
    Action Bool := do
  let ttl ← Action.ofExcept (m.lifetime ttl)
  let token ← tokenOr token
  m.take key token ttl

/-- Has the server compare a lock with a token and change it if they agree. -/
def guarded (m : LockManager) (operation key token : String) (script : Script) : Action Bool := do
  let k := m.storeKey key
  let answer ← Action.surfacing operation (some k) <|
    m.client.ask .script "EVAL" fun now d =>
      Script.send now d (Utf8.encode k) (Utf8.encode token) script
  return answer.isTruthy

/-- Deletes a lock while the token holds it. -/
def release (m : LockManager) (key token : String) : Action Bool := do
  let released ← m.guarded "release" key token .delete
  Action.report .debug ("release " ++ m.storeKey key ++ " token=" ++ token ++ " -> " ++ word released)
  return released

/-- Gives a lock a new lifetime from now on while the token holds it. -/
def extend (m : LockManager) (key token : String) (ttl : Value) : Action Bool := do
  let ttl ← Action.ofExcept (Parameter.period "additional_ttl_ms" ttl)
  let extended ← m.guarded "extend" key token (.expire ttl.val)
  Action.report .debug ("extend " ++ m.storeKey key ++ " token=" ++ token ++ " ttl=" ++
    toString ttl.val ++ "ms -> " ++ word extended)
  return extended

/-- Whether anybody holds a lock. -/
def isLocked (m : LockManager) (key : String) : Action Bool := do
  let k := m.storeKey key
  let answer ← Action.surfacing "is_locked" (some k) <|
    m.client.ask .count "EXISTS" fun now d => Command.run now d (.count [Utf8.encode k])
  match answer with
  | .int n => return n == 1
  | _ => return false

/-- The token that a value names; one that the client did not turn into text is read here. -/
def tokenOf? : Value → Except Failure (Option String)
  | .bytes b =>
    match Utf8.decode b with
    | .ok t => .ok (some t)
    | .error e => .error (.of (.undecodable e))
  | .text t => .ok (some t)
  | _ => .ok none

/-- The token that holds a lock. -/
def owner? (m : LockManager) (key : String) : Action (Option String) := do
  let k := m.storeKey key
  let answer ← Action.surfacing "current_owner_token" (some k) <|
    m.client.ask .get "GET" fun now d => Command.run now d (.get (Utf8.encode k))
  Action.ofExcept (tokenOf? answer)

/-- Polls until the lock is taken or the remaining time is over. Every round but the last uses up
some of that time, by an interval that the clock may be unable to count. -/
def poll (m : LockManager) (key token : String) (ttl : Period) (pace : Except Failure Period)
    (timeout attempts remaining : Nat) : Action Bool := do
  if ← m.take key token ttl then
    return true
  match remaining with
  | 0 =>
    Action.report .debug ("wait_for_lock " ++ m.storeKey key ++ " gave up after " ++
      toString (attempts + 1) ++ " attempt(s) in " ++ toString timeout ++ "ms")
    return false
  | left + 1 =>
    let interval ← Action.ofExcept pace
    let nap := min interval.val (left + 1)
    Action.sleep nap
    m.poll key token ttl pace timeout (attempts + 1) (left + 1 - nap)
termination_by remaining
decreasing_by have := interval.property; omega

/-- Waits for a lock by a clock, until it is taken or the time is up. The clock counts the time to wait
before the first poll, and the interval before the first nap. -/
def waitBy (timer : Timer) (m : LockManager) (key : String) (token : Option String)
    (ttl interval timeout : Value) : Action Bool := do
  let ttl ← Action.ofExcept (m.lifetime ttl)
  let interval ← Action.ofExcept <|
    Parameter.period "poll_interval_ms" (Parameter.orDefault interval m.settings.pollInterval)
  let timeout ← Action.ofExcept <|
    Parameter.patience "timeout_ms" (Parameter.orDefault timeout m.settings.waitTimeout)
  let token ← tokenOr token
  Action.ofExcept (timer timeout)
  m.poll key token ttl ((timer interval.val).map fun _ => interval) timeout 0 timeout

/-- Waits for a lock until it is taken or the time is up. -/
def wait (m : LockManager) (key : String) (token : Option String)
    (ttl interval timeout : Value) : Action Bool :=
  m.waitBy .seconds key token ttl interval timeout

end LockManager
end Leasehold

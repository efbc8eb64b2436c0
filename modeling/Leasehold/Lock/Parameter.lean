import Leasehold.Failure.Basic
import Leasehold.Value

/-!
# Lock parameters

Times that callers give in milliseconds. What is no whole number, truth values included, or is out
of range is refused before anything else happens.

- **Periods** (`Period`): positive times, for lifetimes and the time between two polls.
- **Timers** (`Timer`): clocks that count such times, or cannot because they are too long.
- **Checks** (`Parameter.period`, `Parameter.patience`), with the message of a refusal, which shows the
  value.
-/

namespace Leasehold

/-- A positive number of milliseconds. -/
abbrev Period := { ms : Nat // 0 < ms }

/-- A clock that is to count milliseconds: whether it can count so many of them. -/
abbrev Timer := Nat → Except Failure Unit

namespace Timer

/-- A clock that counts any number of milliseconds. -/
def exact : Timer := fun _ => .ok ()

/-- The failure for a time that is too long. -/
def overflow : Failure := .plain .overflow "integer division result too large for a float"

/-- A clock that counts seconds in floating point. -/
def seconds : Timer := fun ms =>
  if (Binary64.ofRatio false ms 1000).isFinite then .ok () else .error overflow

/-- A clock counts a time. -/
def Counts (timer : Timer) (ms : Nat) : Prop := timer ms = .ok ()

end Timer

namespace Parameter

/-- The failure for a parameter out of range. -/
def refusal (name requirement : String) (v : Value) : Failure :=
  .showing .lockParameter (fun got => name ++ " must be a " ++ requirement ++ ", got " ++ got) v

/-- A value, or its default when it is absent. -/
def orDefault (v : Value) (default : Int) : Value :=
  match v with
  | .null => .int default
  | v => v

/-- The positive time that a value gives. -/
def period (name : String) (v : Value) : Except Failure Period :=
  let refused := Except.error (refusal name "positive integer of milliseconds" v)
  match v with
  | .int n => if h : 0 < n then .ok ⟨n.toNat, by omega⟩ else refused
  | _ => refused

/-- The time that a value gives for waiting; it may be zero. -/
def patience (name : String) (v : Value) : Except Failure Nat :=
  let refused := Except.error (refusal name "non-negative integer" v)
  match v with
  | .int n => if 0 ≤ n then .ok n.toNat else refused
  | _ => refused

end Parameter
end Leasehold

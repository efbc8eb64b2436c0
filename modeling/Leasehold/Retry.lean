import Leasehold.Failure.Basic
import Leasehold.Value

/-!
# Bounded retries

An operation that may meet a conflict is tried a bounded number of times.

- **Attempts** (`Retry.run`): numbered from one. The first that ends without a conflict ends it
  all, with its value or its failure; after each conflict a hook is told.
- **Exhaustion**: when the last attempt conflicts too, that is a failure with the last conflict
  inside it and as its cause. The hook hears of that conflict first.
- **The budget** (`Retry.budget`): a positive whole number.

Attempts and hooks work on a state of any type, which keeps what they did to it when they fail.
-/

namespace Leasehold.Retry

/-- How many attempts a value allows. -/
def budget : Value → Except Failure Nat
  | .int n =>
    if 1 ≤ n then .ok n.toNat else .error (refused (.int n))
  | v => .error (refused v)
where
  /-- The failure for a value that is no budget. -/
  refused (v : Value) : Failure :=
    .showing .value (fun got => "max_retries must be a positive integer, got " ++ got) v

/-- The failure of an operation of which every attempt conflicted. -/
def exhausted (attempts : Nat) (last : Failure) : Failure :=
  (Failure.of (.retryExhausted attempts last)).because last

/-- Whether a failure is a conflict. Cancellation never is. -/
def catches (isConflict : Failure → Bool) (f : Failure) : Bool := f.isA .failure && isConflict f

/-- Something that works on a state of its own and may fail. -/
abbrev Step (σ α : Type) := ExceptT Failure (StateM σ) α

/-- The attempts from `number` on, with `left` more allowed after that one. -/
def runFrom {σ α : Type} (attempt : Nat → Step σ α) (isConflict : Failure → Bool)
    (onConflict : Nat → Failure → Step σ Unit) (number left : Nat) : Step σ α := fun s =>
  match attempt number s with
  | (.ok a, s) => (.ok a, s)
  | (.error f, s) =>
    if catches isConflict f then
      match onConflict number f s with
      | (.error g, s) => (.error g, s)
      | (.ok (), s) =>
        match left with
        | 0 => (.error (exhausted number f), s)
        | left + 1 => runFrom attempt isConflict onConflict (number + 1) left s
    else (.error f, s)

/-- Tries an operation as often as a budget allows. -/
def run {σ α : Type} (maxRetries : Value) (attempt : Nat → Step σ α) (isConflict : Failure → Bool)
    (onConflict : Nat → Failure → Step σ Unit) : Step σ α := fun s =>
  match budget maxRetries with
  | .error f => (.error f, s)
  | .ok attempts => runFrom attempt isConflict onConflict 1 (attempts - 1) s

end Leasehold.Retry

import Leasehold.Lock.Manager

/-!
# Lock handles

A handle stands for one lock, a token of its own and a lifetime, and knows whether its last enter
took the lock.

- **Entering** (`Handle.enter`) tries to take the lock. An enter that fails leaves the handle as it
  is.
- **Leaving** (`Handle.exit`) gives back what the last enter took, and nothing else; after it the
  handle holds nothing (`Handle.left`), also if giving back failed.
- **Holding** (`LockManager.hold`) runs a body between the two.
-/

namespace Leasehold

/-- A lock with a token that nobody else has. -/
structure Handle where
  manager : LockManager
  key : String
  token : String
  ttl : Period
  isHolding : Bool := false

/-- Makes a handle. -/
def LockManager.lock (m : LockManager) (key : String) (ttl : Value) : Action Handle := do
  let ttl ← Action.ofExcept (m.lifetime ttl)
  let token ← Action.freshIdentifier
  return ⟨m, key, token, ttl, false⟩

namespace Handle

/-- Tries to take the lock. -/
def enter (h : Handle) : Action Bool := h.manager.take h.key h.token h.ttl

/-- The handle after an enter with an answer. -/
def entered (h : Handle) (acquired : Bool) : Handle := { h with isHolding := acquired }

/-- Gives back the lock if the last enter took it. -/
def exit (h : Handle) : Action Unit := do
  if h.isHolding then
    let _ ← h.manager.release h.key h.token

/-- The handle after an exit. -/
def left (h : Handle) : Handle := { h with isHolding := false }

/-- Gives back the lock while a failure is on its way, if there is one: that failure goes on, unless
giving back fails with another. -/
def exitDuring (h : Handle) (pending : Except Failure Unit) : Action Unit := .of fun s =>
  let outer := s.handling
  let handling := match pending with
    | .error f => some f
    | .ok () => outer
  match h.exit.perform { s with handling } with
  | (.ok (), s) => (pending, { s with handling := outer })
  | (.error f, s) => (.error f, { s with handling := outer })

end Handle

/-- What a body did while a handle was entered, absent if entering failed, and how it all ended. -/
structure Held (α : Type) where
  body : Option α
  outcome : Except Failure Unit

/-- Enters a new handle, runs a body that learns whether the lock was taken, and leaves the
handle. -/
def LockManager.hold {α : Type} (m : LockManager) (key : String) (ttl : Value)
    (body : Bool → StateM Session (α × Except Failure Unit)) : StateM Session (Held α) := fun s =>
  match (m.lock key ttl).perform s with
  | (.error f, s) => (⟨none, .error f⟩, s)
  | (.ok h, s) =>
    match h.enter.perform s with
    | (.error f, s) => (⟨none, .error f⟩, s)
    | (.ok acquired, s) =>
      let ((a, ending), s) := body acquired s
      let (outcome, s) := ((h.entered acquired).exitDuring ending).perform s
      (⟨some a, outcome⟩, s)

end Leasehold

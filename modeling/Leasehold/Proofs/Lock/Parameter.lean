import Leasehold.Proofs.Lock.Isolation
import Leasehold.Proofs.Lock.Ownership

/-!
# Which parameters are refused

- **Rules** (`ParameterRule`): a lifetime or an interval is a positive whole number, and the time to
  wait is a whole number that is not negative. The first rule that is broken is the one that a caller
  hears of (`ParameterRule.Refused`).
- **Checks** (`ParameterRule.Follows`): a check that follows a rule succeeds or fails as the rule says.
  Checks in a row fail with the first rule that is broken (`ParameterRule.refused_bind_iff`).
- **Calls** (`LockCall.rules`): a call with a broken rule is refused, and nothing else happens
  (`LockCall.perform_refused`, `LockManager.lock_refused`).
-/

namespace Leasehold

variable {α β : Type}

/-! ## Rules -/

/-- A value is a positive whole number. -/
def Value.IsPositive (v : Value) : Prop := ∃ n : Int, v = .int n ∧ 0 < n

/-- A value is a whole number that is not negative. -/
def Value.IsNatural (v : Value) : Prop := ∃ n : Int, v = .int n ∧ 0 ≤ n

@[simp] theorem Value.isPositive_int {n : Int} : (Value.int n).IsPositive ↔ 0 < n := by
  simp [IsPositive]

@[simp] theorem Value.isNatural_int {n : Int} : (Value.int n).IsNatural ↔ 0 ≤ n := by
  simp [IsNatural]

/-- A rule for the value of a parameter: what it must be, in words and as a proposition. -/
structure ParameterRule where
  name : String
  requirement : String
  value : Value
  kept : Prop

/-- The rule for a lifetime or an interval. -/
def Parameter.periodRule (name : String) (v : Value) : ParameterRule :=
  ⟨name, "positive integer of milliseconds", v, v.IsPositive⟩

/-- The rule for the time to wait. -/
def Parameter.patienceRule (name : String) (v : Value) : ParameterRule :=
  ⟨name, "non-negative integer", v, v.IsNatural⟩

namespace ParameterRule

/-- The failure if a rule is broken. -/
def refusal (r : ParameterRule) : Failure := Parameter.refusal r.name r.requirement r.value

theorem refusal_of_unwritable {r : ParameterRule} (h : r.value.isWritable = false) :
    r.refusal = .tooLong := by
  unfold refusal Parameter.refusal Failure.showing
  rw [h]
  rfl

/-- A refusal is one of a lock parameter, unless it would have to show a whole number that is too long
to be written. -/
theorem kind_refusal (r : ParameterRule) :
    r.refusal.kind = if r.value.isWritable then .lockParameter else .value := by
  unfold refusal Parameter.refusal Failure.showing
  split <;> rfl

/-- The refusal of the first rule that is broken. -/
inductive Refused : List ParameterRule → Failure → Prop where
  | here {r : ParameterRule} {rest : List ParameterRule} (broken : ¬ r.kept) :
      Refused (r :: rest) r.refusal
  | later {r : ParameterRule} {rest : List ParameterRule} {f : Failure} (kept : r.kept)
      (refused : Refused rest f) : Refused (r :: rest) f

variable {r : ParameterRule} {rules rest : List ParameterRule} {e : Except Failure α} {f : Failure}

theorem Refused.broken_mem (h : Refused rules f) : ∃ r ∈ rules, ¬ r.kept ∧ f = r.refusal := by
  induction h with
  | here broken => exact ⟨_, List.mem_cons_self, broken, rfl⟩
  | later _ _ ih =>
    obtain ⟨r, hr, hbroken⟩ := ih
    exact ⟨r, List.mem_cons_of_mem _ hr, hbroken⟩

/-- If the values that break their rules can be written, what is refused is a lock parameter. -/
theorem Refused.kind_of_writable (h : Refused rules f)
    (writable : ∀ r ∈ rules, ¬ r.kept → r.value.isWritable = true) : f.kind = .lockParameter := by
  obtain ⟨r, hr, hbroken, rfl⟩ := h.broken_mem
  rw [r.kind_refusal, if_pos (writable r hr hbroken)]

/-- A refusal is no failure of the connection. -/
theorem Refused.connected (h : Refused rules f) : f.isConnectivity = false := by
  obtain ⟨r, -, -, rfl⟩ := h.broken_mem
  unfold Failure.isConnectivity
  rw [r.kind_refusal]
  split <;> rfl

/-- Something is refused as soon as one rule is broken. -/
theorem exists_refused (h : ∃ r ∈ rules, ¬ r.kept) : ∃ f, Refused rules f := by
  induction rules with
  | nil =>
    obtain ⟨r, hr, -⟩ := h
    cases hr
  | cons r rest ih =>
    by_cases hkept : r.kept
    · obtain ⟨r', hr', hbroken⟩ := h
      obtain rfl | hrest := List.mem_cons.mp hr'
      · exact absurd hkept hbroken
      · obtain ⟨f, hf⟩ := ih ⟨r', hrest, hbroken⟩
        exact ⟨f, .later hkept hf⟩
    · exact ⟨r.refusal, .here hkept⟩

/-- A check follows a rule: it succeeds if the rule is kept, and else fails with the refusal. -/
inductive Follows (r : ParameterRule) : Except Failure α → Prop where
  | kept {a : α} (kept : r.kept) : Follows r (.ok a)
  | broken (broken : ¬ r.kept) : Follows r (.error r.refusal)

/-- Of two checks in a row, the second counts only if the first succeeds. -/
theorem refused_bind_iff (h : r.Follows e) {k : α → Except Failure β}
    (later : ∀ a, k a = .error f ↔ Refused rest f) : e >>= k = .error f ↔ Refused (r :: rest) f := by
  cases h with
  | @kept a kept =>
    show k a = _ ↔ _
    rw [later a]
    constructor
    · exact .later kept
    · intro hf
      cases hf with
      | here broken => exact absurd kept broken
      | later _ refused => exact refused
  | broken broken =>
    constructor
    · intro hf
      cases hf
      exact .here broken
    · intro hf
      cases hf with
      | here => rfl
      | later kept => exact absurd kept broken

theorem refused_nil_iff {a : α} : (pure a : Except Failure α) = .error f ↔ Refused [] f := by
  constructor <;> intro h <;> cases h

theorem refused_single_iff (h : r.Follows e) : e = .error f ↔ Refused [r] f := by
  rw [← refused_bind_iff h (k := pure) fun _ => refused_nil_iff, bind_pure]

end ParameterRule

namespace Parameter

open ParameterRule

variable (name : String) (v : Value)

theorem period_follows : (periodRule name v).Follows (period name v) := by
  cases v with
  | int n =>
    unfold period
    dsimp only
    split
    · rename_i hn
      exact .kept (Value.isPositive_int.mpr hn)
    · rename_i hn
      exact .broken (mt Value.isPositive_int.mp hn)
  | _ => exact .broken fun ⟨_, h, _⟩ => nomatch h

theorem patience_follows : (patienceRule name v).Follows (patience name v) := by
  cases v with
  | int n =>
    unfold patience
    dsimp only
    split
    · rename_i hn
      exact .kept (Value.isNatural_int.mpr hn)
    · rename_i hn
      exact .broken (mt Value.isNatural_int.mp hn)
  | _ => exact .broken fun ⟨_, h, _⟩ => nomatch h

end Parameter

/-! ## Calls -/

open Parameter ParameterRule

/-- The rules for the parameters of a call, in the order in which they are checked. What is not given
stands for its default, unless it has none. -/
def LockCall.rules (c : LockCall) : List ParameterRule :=
  let d := c.manager.settings
  match c.operation with
  | .acquire _ ttl => [periodRule "ttl_ms" (orDefault ttl d.defaultTtl)]
  | .extend _ ttl => [periodRule "additional_ttl_ms" ttl]
  | .wait _ ttl interval timeout =>
    [periodRule "ttl_ms" (orDefault ttl d.defaultTtl),
      periodRule "poll_interval_ms" (orDefault interval d.pollInterval),
      patienceRule "timeout_ms" (orDefault timeout d.waitTimeout)]
  | .release _ | .isLocked | .owner => []

/-- A call waits by times that are in order, but too long for the clock to count. -/
def LockCall.Overlong (c : LockCall) : Prop :=
  match c.operation with
  | .wait _ ttl interval timeout =>
    ∃ p i t, c.manager.waitTimes ttl interval timeout = .ok (p, i, t) ∧
      ¬ (Timer.seconds.Counts i.val ∧ Timer.seconds.Counts t)
  | _ => False

namespace LockManager

variable (m : LockManager)

theorem lifetime_refused_iff {ttl : Value} {f : Failure} :
    m.lifetime ttl = .error f ↔
      Refused [periodRule "ttl_ms" (orDefault ttl m.settings.defaultTtl)] f :=
  refused_single_iff (period_follows ..)

theorem waitTimes_refused_iff {key : String} {token : Option String} {ttl interval timeout : Value}
    {f : Failure} :
    m.waitTimes ttl interval timeout = .error f ↔
      Refused (LockCall.rules ⟨m, key, .wait token ttl interval timeout⟩) f :=
  refused_bind_iff (period_follows ..) fun _ =>
    refused_bind_iff (period_follows ..) fun _ =>
      refused_bind_iff (patience_follows ..) fun _ => refused_nil_iff

/-- A handle with a broken rule is not made, and takes no identifier. -/
theorem lock_refused {key : String} {ttl : Value} {f : Failure}
    (h : Refused [periodRule "ttl_ms" (orDefault ttl m.settings.defaultTtl)] f) (s : Session) :
    (m.lock key ttl).perform s = (.error f, s) := by
  rw [m.lock_eq, m.lifetime_refused_iff.mpr h]

end LockManager

/-- A call with a broken rule is refused, and nothing happens. -/
theorem LockCall.perform_refused {c : LockCall} {f : Failure} (h : Refused c.rules f) (s : Session) :
    c.action.perform s = (.error f, s) := by
  obtain ⟨m, key, operation⟩ := c
  unfold action
  cases operation with
  | acquire token ttl =>
    dsimp only
    rw [Action.perform_bind, m.acquire_eq, m.lifetime_refused_iff.mpr h]
  | extend token ttl =>
    dsimp only
    rw [Action.perform_bind, m.extend_refused key token s
      ((refused_single_iff (period_follows ..)).mpr h)]
  | wait token ttl interval timeout =>
    dsimp only
    rw [Action.perform_bind, m.wait_eq, LockManager.waitPlan_refused (m.waitTimes_refused_iff.mpr h)]
  | release | isLocked | owner => cases h

end Leasehold

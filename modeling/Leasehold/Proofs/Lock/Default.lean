import Leasehold.Proofs.Lock.Outcome
import Leasehold.Proofs.Lock.Surfacing
import Leasehold.Proofs.Number.Numeral
import Leasehold.Proofs.Settings.Bounds
import Leasehold.Proofs.Transaction.Setback

/-!
# Parameters are checked before anything else, and defaults pass

- **Other failures** (`LockCall.Meets.kind_ne`): what the server fails with is no refusal of a
  parameter, unless such a failure is arranged.
- **Defaults** (`LockSettings.InRange.rules_kept`): a default that validation accepts keeps the rule of
  the parameter that it stands for.
- **Both** (`LockCall.parameters_checked_first`): a call is refused exactly when one of its rules is
  broken, and callers who leave their parameters out are never refused.
-/

namespace Leasehold

open Session Parameter ParameterRule

/-- No failure of a kind is arranged. -/
def Session.NeverArranges (s : Session) (k : Kind) : Prop := ∀ p f, (p, some f) ∈ s.faults → f.kind ≠ k

/-! ## Other failures -/

theorem Failure.kind_surfaced_ne {f : Failure} {k : Kind} (h : f.kind ≠ k) (other : k ≠ .storeUnavailable)
    (operation : String) (key : Option String) : (f.surfaced operation key).kind ≠ k := by
  by_cases hlost : ∃ inner, f.Lost inner
  · obtain ⟨inner, lost⟩ := hlost
    rw [surfaced_of_lost lost]
    exact other.symm
  · rw [surfaced_of_kept fun inner lost => hlost ⟨inner, lost⟩]
    exact h

theorem Failure.kind_during (f : Failure) (handled : Option Failure) :
    (f.during handled).kind = f.kind := by
  cases handled <;> rfl

theorem Failure.kind_ofRefusal (r : Refusal) :
    (ofRefusal r).kind = .response ∨ (ofRefusal r).kind = .value := by
  cases r with
  | unwritable => exact .inr rfl
  | _ => exact .inl rfl

/-- What a command fails with has a kind of the store, or one that was arranged. -/
theorem Unanswered.kind_ne {p : Point} {reply : Except Refusal Reply} {s : Session} {g : Failure}
    {k : Kind} (h : Unanswered p reply s g) (never : s.NeverArranges k) (connection : k ≠ .storeConnection)
    (response : k ≠ .response) (value : k ≠ .value) : g.kind ≠ k := by
  cases h with
  | arranged fault =>
    rw [Failure.kind_during]
    exact never p _ (takeFrom_mem fault)
  | down =>
    rw [Failure.kind_during]
    exact connection.symm
  | @refused r =>
    obtain hkind | hkind := Failure.kind_ofRefusal r
    all_goals rw [hkind]
    · exact response.symm
    · exact value.symm

theorem LockCall.Meets.kind_ne {c : LockCall} {s : Session} {g : Failure} (h : c.Meets s g)
    (never : s.NeverArranges .lockParameter) : g.kind ≠ .lockParameter := by
  have hunanswered : ∀ {p : Point} {reply : Except Refusal Reply}, Unanswered p reply s g →
      g.kind ≠ .lockParameter :=
    fun hg => hg.kind_ne never (by decide) (by decide) (by decide)
  obtain ⟨m, key, operation⟩ := c
  cases operation with
  | acquire | extend =>
    obtain ⟨_, _, hg⟩ := h
    exact hunanswered hg
  | release | isLocked | owner => exact hunanswered h
  | wait token ttl interval timeout =>
    obtain ⟨⟨p, pace, t⟩, -, a, ha, hg⟩ := h
    have hfaults := LockManager.tries_faults a ha
    exact Unanswered.kind_ne hg (fun q f hf => never q f (hfaults _ hf)) (by decide) (by decide)
      (by decide)

/-! ## Defaults -/

/-- The rules for the parameters that a call leaves out. -/
def LockSettings.rules (d : LockSettings) : List ParameterRule :=
  [periodRule "ttl_ms" (orDefault .null d.defaultTtl),
    periodRule "poll_interval_ms" (orDefault .null d.pollInterval),
    patienceRule "timeout_ms" (orDefault .null d.waitTimeout)]

theorem LockSettings.InRange.rules_kept {d : LockSettings} (h : d.InRange) : ∀ r ∈ d.rules, r.kept := by
  simp only [rules, List.mem_cons, List.not_mem_nil, or_false]
  rintro r (rfl | rfl | rfl)
  · exact Value.isPositive_int.mpr h.ttl
  · exact Value.isPositive_int.mpr h.interval
  · exact Value.isNatural_int.mpr h.timeout

/-- A call leaves out all parameters that have a default. -/
def LockOperation.OmitsTimes : LockOperation → Prop
  | .acquire _ ttl => ttl = .null
  | .wait _ ttl interval timeout => ttl = .null ∧ interval = .null ∧ timeout = .null
  | .extend .. => False
  | .release _ | .isLocked | .owner => True

theorem LockCall.rules_kept {c : LockCall} (omits : c.operation.OmitsTimes)
    (h : c.manager.settings.InRange) : ∀ r ∈ c.rules, r.kept := by
  have hdefaults := h.rules_kept
  obtain ⟨m, key, operation⟩ := c
  cases operation with
  | acquire token ttl =>
    obtain rfl : ttl = .null := omits
    exact fun r hr => hdefaults r (List.mem_cons.mpr (.inl (List.mem_singleton.mp hr)))
  | wait token ttl interval timeout =>
    obtain ⟨rfl, rfl, rfl⟩ : ttl = .null ∧ interval = .null ∧ timeout = .null := omits
    exact hdefaults
  | extend => exact omits.elim
  | release | isLocked | owner => exact fun r hr => nomatch hr

/-! ## Both -/

/-- If the values of a call can be written, it ends with the refusal of a lock parameter exactly when one
of its rules is broken, unless that is what its command fails with. -/
theorem LockCall.refused_iff (c : LockCall) (s : Session)
    (writable : ∀ r ∈ c.rules, ¬ r.kept → r.value.isWritable = true) :
    (∃ f, (c.action.perform s).1 = .error f ∧ f.kind = .lockParameter) ↔
      (∃ r ∈ c.rules, ¬ r.kept) ∨ ∃ g, c.Meets s g ∧ g.kind = .lockParameter := by
  have hsurfaces := LockManager.call_surfaces s c
  constructor
  · rintro ⟨f, hf, hkind⟩
    obtain ⟨g, hg, rfl⟩ | hown := hsurfaces.only f hf
    · refine .inr ⟨g, hg, ?_⟩
      by_contra hother
      exact Failure.kind_surfaced_ne hother (by decide) _ _ hkind
    · cases hown with
      | refused hrefused =>
        obtain ⟨r, hr, hbroken, -⟩ := hrefused.broken_mem
        exact .inl ⟨r, hr, hbroken⟩
      | illegible _ hencoding =>
        rw [hkind] at hencoding
        cases hencoding
      | overlong => cases hkind
  · rintro (hbroken | ⟨g, hg, hkind⟩)
    · obtain ⟨f, hf⟩ := exists_refused hbroken
      exact ⟨f, by rw [LockCall.perform_refused hf s], hf.kind_of_writable writable⟩
    · exact ⟨g, hsurfaces.kept g hg (Failure.kept_of_kind hkind (by decide) (by decide)), hkind⟩

/-- A handle is refused exactly when the rule for its lifetime is broken. -/
theorem LockManager.lock_refused_iff (m : LockManager) (key : String) (ttl : Value) (s : Session) :
    (∃ f, ((m.lock key ttl).perform s).1 = .error f) ↔
      ¬ (periodRule "ttl_ms" (orDefault ttl m.settings.defaultTtl)).kept := by
  rw [m.lock_eq]
  have hfollows := period_follows "ttl_ms" (orDefault ttl m.settings.defaultTtl)
  unfold lifetime
  generalize period "ttl_ms" (orDefault ttl m.settings.defaultTtl) = e at hfollows
  cases hfollows with
  | kept kept => exact iff_of_false (fun ⟨_, hf⟩ => nomatch hf) (not_not.mpr kept)
  | broken broken => exact ⟨fun _ => broken, fun _ => ⟨_, rfl⟩⟩

/-- A run whose caller leaves out how often to try makes its first attempt, and ends as its last one
does. -/
theorem TransactionRunner.run_of_default {r : TransactionRunner} (h : 1 ≤ r.maxRetries)
    (keys : List String) (build : Build) (hook : Option Hook) (start : Progress) :
    (1, start) ∈ r.begun keys build .null hook start ∧
    ∃ n p done, (r.begun keys build .null hook start).getLast? = some (n, p) ∧
      r.Last keys build .null hook r.maxRetries.toNat n p done ∧
      r.run keys build .null hook start = (done.1.mapError (concluded keys), done.2) := by
  have hbudget : Retry.budget (r.allowance .null) = .ok r.maxRetries.toNat := if_pos h
  refine ⟨begun_start hbudget start, ?_⟩
  obtain ⟨f, hf, -⟩ | ⟨m, n, p, done, hm, hlast, hends, hrun⟩ := r.run_ends keys build .null hook start
  · rw [hbudget] at hf
    cases hf
  · rw [hbudget] at hm
    cases hm
    exact ⟨n, p, done, hlast, hends, hrun⟩

/-- **Parameters are checked before anything else happens, and defaults pass.** A call with a broken rule
ends with the refusal of the first one, and the session is as it was, in whatever state the server is; no
handle is made then, and no identifier is taken. The refusal shows the value, so it is one of a lock
parameter unless the value holds a whole number that is too long to be written. If what breaks a rule can
be written, a call ends with the refusal of a lock parameter if and only if a rule is broken, as long as
no command is made to fail with such a refusal. With settings that validation accepts, whatever is left
out keeps its rule, so callers who leave out their parameters are never refused, and runs of transactions
make attempts. -/
theorem LockCall.parameters_checked_first (s : Session) :
    (∀ c : LockCall, (∀ r ∈ c.rules, ¬ r.kept → r.value.isWritable = true) →
      ((∃ f, (c.action.perform s).1 = .error f ∧ f.kind = .lockParameter) ↔
        (∃ r ∈ c.rules, ¬ r.kept) ∨ ∃ g, c.Meets s g ∧ g.kind = .lockParameter)) ∧
    (∀ c : LockCall,
      ((∃ r ∈ c.rules, ¬ r.kept) → ∃ f, Refused c.rules f) ∧
      ∀ f, Refused c.rules f → c.action.perform s = (.error f, s) ∧
        ∃ r ∈ c.rules, ¬ r.kept ∧ f = r.refusal ∧
          f.kind = if r.value.isWritable then .lockParameter else .value) ∧
    (∀ (m : LockManager) (key : String) (ttl : Value),
      let rule := periodRule "ttl_ms" (orDefault ttl m.settings.defaultTtl)
      ((∃ f, ((m.lock key ttl).perform s).1 = .error f) ↔ ¬ rule.kept) ∧
      (¬ rule.kept → (m.lock key ttl).perform s = (.error rule.refusal, s) ∧
        rule.refusal.kind = if rule.value.isWritable then .lockParameter else .value)) ∧
    ∀ d : LockSettings, d.Accepted →
      (∀ r ∈ d.rules, r.kept) ∧
      (∀ c : LockCall, c.manager.settings = d → c.operation.OmitsTimes →
        s.NeverArranges .lockParameter →
        ∀ f, (c.action.perform s).1 = .error f → f.kind ≠ .lockParameter) ∧
      (∀ (m : LockManager) (key : String), m.settings = d →
        ∃ h, ((m.lock key .null).perform s).1 = .ok h) ∧
      ∀ (r : TransactionRunner) (keys : List String) (build : Build) (hook : Option Hook)
        (start : Progress), r.maxRetries = d.maxRetries →
        (1, start) ∈ r.begun keys build .null hook start ∧
        ∃ n p done, (r.begun keys build .null hook start).getLast? = some (n, p) ∧
          r.Last keys build .null hook r.maxRetries.toNat n p done ∧
          r.run keys build .null hook start =
            (done.1.mapError (TransactionRunner.concluded keys), done.2) := by
  refine ⟨fun c => c.refused_iff s, fun c => ⟨exists_refused, fun f hf => ?_⟩,
    fun m key ttl => ⟨m.lock_refused_iff key ttl s, fun broken =>
      ⟨m.lock_refused (.here broken) s, ParameterRule.kind_refusal _⟩⟩,
    fun d accepted => ?_⟩
  · obtain ⟨r, hr, hbroken, rfl⟩ := hf.broken_mem
    exact ⟨LockCall.perform_refused hf s, r, hr, hbroken, rfl, r.kind_refusal⟩
  have hrange := accepted.inRange
  refine ⟨hrange.rules_kept, ?_, ?_, ?_⟩
  · rintro c rfl omits never f hf hkind
    have hkept := c.rules_kept omits hrange
    obtain ⟨r, hr, hbroken⟩ | ⟨g, hg, hmet⟩ :=
      (c.refused_iff s fun r hr hbroken => absurd (hkept r hr) hbroken).mp ⟨f, hf, hkind⟩
    · exact hbroken (hkept r hr)
    · exact hg.kind_ne never hmet
  · rintro m key rfl
    have hkept := hrange.rules_kept _ List.mem_cons_self
    cases hdone : ((m.lock key .null).perform s).1 with
    | ok h => exact ⟨h, rfl⟩
    | error f => exact absurd hkept ((m.lock_refused_iff key .null s).mp ⟨f, hdone⟩)
  · intro r keys build hook start hr
    exact r.run_of_default (hr ▸ hrange.retries) keys build hook start

/-- A server that is down does not keep a wait with two broken rules from being refused for the first,
and no refusal keeps a wait with the defaults of a document from finding out that the server is down. -/
theorem LockCall.parameters_checked_first_down :
    let data := Value.record [("default_ttl_ms", .text "60"), ("wait_timeout_ms", .int 0)]
    let d : LockSettings := { defaultTtl := 60, waitTimeout := 0 }
    let s := { Session.start true with isUp := false }
    let wait := fun interval timeout : Value =>
      LockCall.mk { settings := d } "job" (.wait none .null interval timeout)
    LockSettings.validate data = .valid d ∧
    (wait (.bool true) (.int (-1))).action.perform s =
      (.error (refusal "poll_interval_ms" "positive integer of milliseconds" (.bool true)), s) ∧
    (∀ f, ((wait .null .null).action.perform s).1 = .error f → f.kind ≠ .lockParameter) ∧
    (1, { session := s }) ∈ TransactionRunner.begun { maxRetries := d.maxRetries } ["job"]
      (fun _ => []) .null none { session := s } := by
  intro data d s wait
  have hvalid : LockSettings.validate data = .valid d := rfl
  have never : s.NeverArranges .lockParameter := fun _ _ h => nomatch h
  obtain ⟨-, hrefused, -, haccepted⟩ := parameters_checked_first s
  obtain ⟨hkept, homitted, -, hruns⟩ := haccepted d (.alone hvalid)
  refine ⟨hvalid, ((hrefused (wait (.bool true) (.int (-1)))).2 _
    (.later (hkept _ List.mem_cons_self) (.here fun ⟨_, h, _⟩ => nomatch h))).1,
    homitted (wait .null .null) rfl ⟨rfl, rfl, rfl⟩ never, (hruns _ _ _ _ _ rfl).1⟩

/-- A lifetime below zero is not refused as a lock parameter if it has too many digits to be shown. -/
theorem LockCall.overlong_lifetime_unshown :
    let lifetime : Value := .int (-10 ^ Numeral.integerDigitLimit)
    let c : LockCall := ⟨{}, "k", .acquire (some "t") lifetime⟩
    let s := Session.start false
    (∃ r ∈ c.rules, ¬ r.kept) ∧ c.action.perform s = (.error .tooLong, s) ∧
      Failure.tooLong.kind ≠ .lockParameter := by
  intro lifetime c s
  have hbroken : ¬ (periodRule "ttl_ms" lifetime).kept := by
    show ¬ lifetime.IsPositive
    rw [Value.isPositive_int, not_lt, Int.neg_nonpos_iff]
    positivity
  have hlong : lifetime.isWritable = false := by
    show Numeral.isWritable _ = false
    have hten : (10 : Int).natAbs = 10 := rfl
    rw [Bool.eq_false_iff, Ne, Numeral.isWritable_iff, Int.natAbs_neg, Int.natAbs_pow, hten]
    exact lt_irrefl _
  have hrefused : Refused c.rules .tooLong := by
    rw [← refusal_of_unwritable (r := periodRule "ttl_ms" lifetime) hlong]
    exact .here hbroken
  exact ⟨⟨_, List.mem_cons_self, hbroken⟩, c.perform_refused hrefused s, by decide⟩

end Leasehold

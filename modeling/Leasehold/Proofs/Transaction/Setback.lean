import Leasehold.Proofs.Failure.Lost
import Leasehold.Proofs.Transaction.Conflict

/-!
# What a run makes of a failure

- **Setbacks** (`TransactionRunner.Setback`): an attempt meets a failure while it watches, builds or
  commits. Failures of the first and the last come from the server and are put in the library's own
  words; what a build raises stays as it is (`TransactionRunner.attempt_of_setback`).
- **No conflict** (`TransactionRunner.run_of_failure`): the attempt was the last one, as it is when its
  batch is executed (`TransactionRunner.run_of_applied`).
- **A conflict** (`TransactionRunner.Counted`, `TransactionRunner.counted_of_failure`): it is logged
  and told, and another attempt follows unless the hook raises something or no attempt is left.
-/

namespace Leasehold

open Session

/-- A broken watch is a failure like any other, so it is caught. -/
theorem Failure.isA_failure_of_watch {f : Failure} (h : f.isA .watch = true) :
    f.isA .failure = true := by
  unfold isA at *
  rw [Kind.isA_watch.mp h]
  rfl

theorem Retry.catches_watch (f : Failure) : catches (fun f => f.isA .watch) f = f.isA .watch := by
  show (f.isA .failure && f.isA .watch) = f.isA .watch
  cases h : f.isA .watch with
  | false => rw [Bool.and_false]
  | true => rw [Failure.isA_failure_of_watch h]; rfl

namespace TransactionRunner

variable {r : TransactionRunner} {keys : List String} {build : Build} {s : Session} {v : Value}
  {hook : Option Hook} {start p q : Progress} {n : Nat} {f : Failure}

/-! ## Setbacks -/

/-- What an attempt does, one after the other. -/
inductive Phase where
  | watch
  | build
  | commit
deriving DecidableEq, Repr

/-- A failure of a phase as the attempt ends with it: only those of the server are put into other
words. -/
def Phase.surfaced (keys : List String) : Phase → Failure → Failure
  | .watch, f => f.surfaced "watch" (keyName keys)
  | .build, f => f
  | .commit, f => f.surfaced "exec" (keyName keys)

/-- An attempt gets through to the server with its watch, if there is anything to watch. -/
def Reached (keys : List String) (s : Session) : Prop :=
  keys ≠ [] → ((Action.reach .watch).perform s).1 = .ok ()

/-- An attempt meets a failure in one of its phases; the progress it leaves. -/
inductive Setback (r : TransactionRunner) (keys : List String) (build : Build) (p : Progress) :
    Phase → Failure → Progress → Prop where
  | watch {f : Failure} {s' : Session} (guarded : keys ≠ [])
      (fails : (Action.reach .watch).perform p.session = (.error f, s')) :
      Setback r keys build p .watch f { p with session := s' }
  | build {f : Failure} (reached : Reached keys p.session)
      (raised : Move.raised (build (p.builds + 1)) = some f) :
      Setback r keys build p .build f
        { p with session := built keys build p, builds := p.builds + 1 }
  | commit {f : Failure} {s' : Session} (reached : Reached keys p.session)
      (unraised : Move.raised (build (p.builds + 1)) = none)
      (queued : Move.queued (build (p.builds + 1)) ≠ [])
      (fails : (r.commit keys (batch keys build p)).perform (built keys build p) = (.error f, s')) :
      Setback r keys build p .commit f { p with session := s', builds := p.builds + 1 }

/-- An attempt whose watch gets through builds and commits. -/
theorem attempt_of_reached (h : Reached keys p.session) :
    r.attempt keys build p = r.proceed keys build { p with session := watched keys p.session } := by
  cases keys with
  | nil => rfl
  | cons k ks =>
    show (Progress.doing (Action.surfacing "watch" (keyName (k :: ks)) (Action.reach .watch)) >>=
      fun _ => r.proceed (k :: ks) build) p = _
    rw [Retry.bind_run, Progress.doing_eq, Action.perform_surfacing]
    have hok := h (List.cons_ne_nil k ks)
    obtain ⟨f, -, hr⟩ | ⟨-, -, hr⟩ | ⟨-, -, hr⟩ := Action.reach_cases .watch p.session
    · rw [hr] at hok; cases hok
    · rw [hr] at hok; cases hok
    · rw [hr]; rfl

/-- What an attempt does once its watch got through. -/
theorem attempt_eq_of_reached (h : Reached keys p.session) :
    r.attempt keys build p =
      match Move.raised (build (p.builds + 1)) with
      | some f => (.error f, { p with session := built keys build p, builds := p.builds + 1 })
      | none =>
        if (batch keys build p).requests.isEmpty then
          (.ok [], { p with session := built keys build p, builds := p.builds + 1 })
        else
          let done := (r.commit keys (batch keys build p)).perform (built keys build p)
          (done.1.mapError (·.surfaced "exec" (keyName keys)),
            { p with session := done.2, builds := p.builds + 1 }) := by
  rw [attempt_of_reached h]
  unfold proceed
  rw [Retry.bind_run, building_run]
  cases Move.raised (build (p.builds + 1)) with
  | some f => rfl
  | none =>
    dsimp only
    split
    · rfl
    · rw [Progress.doing_eq, Action.perform_surfacing]

theorem attempt_of_setback {phase : Phase} (h : r.Setback keys build p phase f q) :
    r.attempt keys build p = (.error (phase.surfaced keys f), q) := by
  cases h with
  | watch guarded fails =>
    obtain ⟨k, ks, rfl⟩ := List.exists_cons_of_ne_nil guarded
    show (Progress.doing (Action.surfacing "watch" (keyName (k :: ks)) (Action.reach .watch)) >>=
      fun _ => r.proceed (k :: ks) build) p = _
    rw [Retry.bind_run, Progress.doing_eq, Action.perform_surfacing, fails]
    rfl
  | build reached raised =>
    rw [attempt_eq_of_reached reached, raised]
    rfl
  | commit reached unraised queued fails =>
    have hqueued : ((batch keys build p).requests.isEmpty) = false :=
      List.isEmpty_eq_false_iff.mpr queued
    rw [attempt_eq_of_reached reached, unraised]
    simp only [hqueued, fails]
    rfl

theorem Setback.notified {phase : Phase} (h : r.Setback keys build p phase f q) :
    q.notified = p.notified := by
  cases h <;> rfl

theorem commit_quiet (r : TransactionRunner) (keys : List String) (d : Draft) (s : Session) :
    Quiet s ((r.commit keys d).perform s).2 := by
  obtain ⟨f, -, hc⟩ | ⟨sent, -, hc⟩ := r.commit_cases keys d s
  · rw [hc]; exact takeFault_quiet ..
  · rw [hc, execute_session]
    exact (takeFault_quiet ..).trans (withDatabase_quiet ..)

/-- A failure that is met is not logged by the attempt itself. -/
theorem Setback.quiet {phase : Phase} (h : r.Setback keys build p phase f q) :
    Quiet p.session q.session := by
  cases h with
  | watch guarded fails =>
    have hs := Action.reach_session .watch p.session
    rw [fails] at hs
    dsimp only at hs ⊢
    rw [hs]
    exact takeFault_quiet ..
  | build reached raised => exact built_quiet keys build p
  | commit reached unraised queued fails =>
    have hcommit := commit_quiet r keys (batch keys build p) (built keys build p)
    rw [fails] at hcommit
    exact (built_quiet keys build p).trans hcommit

/-! ## What follows -/

/-- The progress after a conflict was logged and told. -/
def warned (r : TransactionRunner) (keys : List String) (v : Value) (hook : Option Hook) (n : Nat)
    (f : Failure) (q : Progress) : Progress :=
  { q with
    session := q.session.report .warning (conflictLine keys (r.allowance v) n)
    notified := heard hook q.notified n f }

/-- An attempt counts as a conflict. It is logged and told. The run ends if the hook raises something
or the attempt was the last one allowed, and else the next attempt starts. -/
structure Counted (r : TransactionRunner) (keys : List String) (build : Build) (v : Value)
    (hook : Option Hook) (start : Progress) (n : Nat) (f : Failure) (q : Progress) : Prop where
  objected : ∀ g, objection hook n f = some g →
    r.run keys build v hook start = (.error (concluded keys g), r.warned keys v hook n f q)
  again : ∀ m, objection hook n f = none → Retry.budget (r.allowance v) = .ok m → n < m →
    (n + 1, r.warned keys v hook n f q) ∈ r.begun keys build v hook start
  last : ∀ m, objection hook n f = none → Retry.budget (r.allowance v) = .ok m → n = m →
    r.run keys build v hook start =
      (.error ((Failure.of (.transactionConflict keys n)).because f), r.warned keys v hook n f q)

/-- A run goes on from any attempt that starts as if it were the first. -/
theorem run_of_begun (h : (n, p) ∈ r.begun keys build v hook start) :
    ∃ rest, Retry.budget (r.allowance v) = .ok (n + rest) ∧
      (let done := Retry.runFrom (fun _ => r.attempt keys build) (fun f => f.isA .watch)
        (notify keys (r.allowance v) hook) n rest p
      r.run keys build v hook start = (done.1.mapError (concluded keys), done.2)) ∧
      ∀ x ∈ Retry.starts (fun _ => r.attempt keys build) (fun f => f.isA .watch)
        (notify keys (r.allowance v) hook) n rest p, x ∈ r.begun keys build v hook start := by
  rw [run_eq]
  unfold begun Retry.run at *
  cases hm : Retry.budget (r.allowance v) with
  | error f => rw [hm] at h; cases h
  | ok m =>
    rw [hm] at h
    have hpos := budget_pos hm
    obtain ⟨rest, hrest, hrun, hsub⟩ := Retry.runFrom_of_mem h
    refine ⟨rest, congrArg Except.ok (by omega), ?_, hsub⟩
    dsimp only
    rw [hrun]

theorem begun_start {m : Nat} (h : Retry.budget (r.allowance v) = .ok m) (start : Progress) :
    (1, start) ∈ r.begun keys build v hook start := by
  unfold begun
  rw [h]
  exact Retry.mem_starts_self _ _ _

/-- A failure that is no conflict ends the run with the attempt that met it. -/
theorem run_of_failure (h : (n, p) ∈ r.begun keys build v hook start)
    (ha : r.attempt keys build p = (.error f, q)) (hf : f.isA .watch = false) :
    r.run keys build v hook start = (.error (concluded keys f), q) := by
  obtain ⟨rest, -, hrun, -⟩ := run_of_begun h
  rw [hrun]
  unfold Retry.runFrom
  simp only [ha, Retry.catches_watch, hf]
  rfl

/-- Results end the run with the attempt that has them. -/
theorem run_of_results (h : (n, p) ∈ r.begun keys build v hook start) {vs : List Value}
    (ha : r.attempt keys build p = (.ok vs, q)) :
    r.run keys build v hook start = (.ok vs, q) := by
  obtain ⟨rest, -, hrun, -⟩ := run_of_begun h
  rw [hrun]
  unfold Retry.runFrom
  simp only [ha]
  rfl

/-- An outcome that is neither a conflict nor one that a run turns into another ends the run. -/
theorem run_of_outcome (h : (n, p) ∈ r.begun keys build v hook start)
    {outcome : Except Failure (List Value)} (ha : r.attempt keys build p = (outcome, q))
    (settled : ∀ f, outcome = .error f → f.isA .watch = false ∧ concluded keys f = f) :
    r.run keys build v hook start = (outcome, q) := by
  cases outcome with
  | ok vs => exact run_of_results h ha
  | error f =>
    obtain ⟨hwatch, hconcluded⟩ := settled f rfl
    rw [run_of_failure h ha hwatch, hconcluded]

/-- A batch that is executed ends the run with its attempt, and its answer is the answer of the run. -/
theorem run_of_applied (h : (n, p) ∈ r.begun keys build v hook start) {sent : List (List Bytes)}
    {outcome : Except Failure (List Value)} (ha : r.attempt keys build p = (outcome, q))
    (applied : r.Applied build s sent outcome q) :
    r.run keys build v hook start = (outcome, q) := by
  refine run_of_outcome h ha fun f hf => ?_
  subst hf
  exact ⟨applied.ofRequest.unwatched, applied.ofRequest.concluded keys⟩

/-- What the hook raises when it is told of a conflict ends the run. -/
theorem run_of_objection (h : (n, p) ∈ r.begun keys build v hook start)
    (ha : r.attempt keys build p = (.error f, q)) (hf : f.isA .watch = true) {g : Failure}
    (hg : objection hook n f = some g) :
    r.run keys build v hook start = (.error (concluded keys g), r.warned keys v hook n f q) := by
  obtain ⟨rest, -, hrun, -⟩ := run_of_begun h
  rw [hrun]
  unfold Retry.runFrom
  simp only [ha, Retry.catches_watch, hf, notify_run, hg, if_true]
  rfl

/-- A broken watch counts as a conflict. -/
theorem counted_of_failure (h : (n, p) ∈ r.begun keys build v hook start)
    (ha : r.attempt keys build p = (.error f, q)) (hf : f.isA .watch = true) :
    r.Counted keys build v hook start n f q := by
  have hcaught : Retry.catches (fun f => f.isA .watch) f = true :=
    (Retry.catches_watch f).trans hf
  have htold (hob : objection hook n f = none) : notify keys (r.allowance v) hook n f q =
      (.ok (), r.warned keys v hook n f q) := by
    rw [notify_run, hob]
    rfl
  obtain ⟨rest, hbudget, hrun, hsub⟩ := run_of_begun h
  refine ⟨fun g hg => run_of_objection h ha hf hg, fun m hob hm hlt => ?_, fun m hob hm heq => ?_⟩
  · rw [hbudget] at hm
    cases hm
    obtain ⟨rest, rfl⟩ := Nat.exists_eq_succ_of_ne_zero (show rest ≠ 0 by omega)
    have hagain : Retry.again? (fun _ => r.attempt keys build) (fun f => f.isA .watch)
        (notify keys (r.allowance v) hook) n p = some (r.warned keys v hook n f q) := by
      unfold Retry.again?
      simp only [ha, hcaught, htold hob, if_true]
    refine hsub _ ?_
    rw [Retry.starts, hagain]
    exact List.mem_cons_of_mem _ (Retry.mem_starts_self _ _ _)
  · rw [hbudget] at hm
    cases hm
    obtain rfl : rest = 0 := by omega
    rw [hrun]
    unfold Retry.runFrom
    simp only [ha, hcaught, htold hob, if_true]
    rfl

end TransactionRunner
end Leasehold

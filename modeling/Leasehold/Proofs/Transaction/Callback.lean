import Leasehold.Proofs.Transaction.Setback

/-!
# Failures of builds and hooks

What a build or a hook raises goes through the same handlers as the failures of the server.

- **Builds**: what a build raises ends its attempt before anything is committed
  (`TransactionRunner.Uncommitted`), and it ends the run unless it is a broken watch, which counts as
  a conflict whoever raised it.
- **Hooks**: what a hook raises ends the run.
- **Conclusions** (`TransactionRunner.concluded_eq_iff`): the caller meets that very failure, unless
  it speaks of exhausted retries, which a run takes for its own.
-/

namespace Leasehold

open Session

namespace TransactionRunner

variable {r : TransactionRunner} {keys : List String} {build : Build} {s : Session} {v : Value}
  {hook : Option Hook} {p q : Progress} {n : Nat} {e f : Failure}

/-! ## Builds -/

/-- An attempt that starts with `p` built once and stopped there: nothing was logged or told, no
commit was issued, and nothing that was queued took effect. -/
structure Uncommitted (build : Build) (s : Session) (p q : Progress) : Prop where
  builds : q.builds = p.builds + 1
  notified : q.notified = p.notified
  log : q.session.log = p.session.log
  commits : q.session.arrangedAt .commit = p.session.arrangedAt .commit
  outside : q.session.Alike (build.outside q.builds s)

theorem arrangedAt_built (keys : List String) (build : Build) (p : Progress) :
    (built keys build p).arrangedAt .commit = p.session.arrangedAt .commit := by
  obtain ⟨_, _, _, _, h⟩ := Move.outside_eq (build (p.builds + 1)) (watched keys p.session)
  have hw : (watched keys p.session).arrangedAt .commit = p.session.arrangedAt .commit := by
    unfold watched
    split
    · rfl
    · exact arrangedAt_takeFault (by decide) p.session
  unfold built
  rw [h, ← hw]
  rfl

theorem begun_alike (h : (n, p) ∈ r.begun keys build v hook { session := s }) :
    p.session.Alike (build.outside p.builds s) := by
  obtain ⟨rest, hbudget, -⟩ := run_of_begun h
  exact (begun_outside hbudget _ h).1

theorem uncommitted_of_raised (h : (n, p) ∈ r.begun keys build v hook { session := s })
    (hs : r.Setback keys build p .build e q) : Uncommitted build s p q := by
  have hquiet := hs.quiet
  cases hs with
  | build reached raised =>
    exact ⟨rfl, rfl, hquiet.log, arrangedAt_built keys build p, built_alike (begun_alike h)⟩

/-! ## Hooks -/

/-- An attempt that ends in a conflict changed nothing. -/
theorem conflict_alike (h : (n, p) ∈ r.begun keys build v hook { session := s })
    (ha : r.attempt keys build p = (.error f, q)) (hf : f.isA .watch = true) :
    q.session.Alike (build.outside q.builds s) := by
  have hattempted := r.attempt_cases keys build p
  rw [ha] at hattempted
  obtain ⟨_, -, hq⟩ | ⟨sent, happlied, -⟩ := hattempted.applied_or_not (begun_alike h)
  · exact hq
  · rw [happlied.ofRequest.unwatched] at hf
    cases hf

/-! ## Conclusions -/

/-- The caller meets the failure that ended the attempts, unless it speaks of exhausted retries. -/
theorem concluded_eq_iff (keys : List String) (e : Failure) :
    concluded keys e = e ↔ ∀ attempts last, e.problem ≠ .retryExhausted attempts last := by
  obtain ⟨problem, cause, context⟩ := e
  cases problem with
  | retryExhausted attempts last =>
    refine iff_of_false (fun h => ?_) fun h => h attempts last rfl
    cases congrArg Failure.problem h
  | _ => exact iff_of_true rfl fun _ _ h => nomatch h

/-- **What callbacks raise ends a transaction, but for two kinds.** A failure that a build raises ends
its attempt with nothing committed, logged or told, and ends the run, unless it is a broken watch: then
the attempt counts as a conflict. A failure that the hook raises ends the run. Either way nothing that
was queued takes effect, and the caller meets that very failure, unless it speaks of exhausted retries:
then the caller meets a conflict of this transaction in its place. -/
theorem run_meets_callback_failures (r : TransactionRunner) (keys : List String) (build : Build)
    (v : Value) (hook : Option Hook) (s : Session) :
    let start : Progress := { session := s }
    let done := r.run keys build v hook start
    (∀ n p e q, (n, p) ∈ r.begun keys build v hook start → r.Setback keys build p .build e q →
      Uncommitted build s p q ∧
      (e.isA .watch = false → done = (.error (concluded keys e), q)) ∧
      (e.isA .watch = true → r.Counted keys build v hook start n e q)) ∧
    (∀ n p f q e, (n, p) ∈ r.begun keys build v hook start →
      r.attempt keys build p = (.error f, q) → f.isA .watch = true → objection hook n f = some e →
      done = (.error (concluded keys e), r.warned keys v hook n f q) ∧
      done.2.session.Alike (build.outside done.2.builds s)) ∧
    (∀ e, concluded keys e = e ↔ ∀ attempts last, e.problem ≠ .retryExhausted attempts last) ∧
    ∀ attempts last cause context,
      concluded keys (.mk (.retryExhausted attempts last) cause context) =
        (Failure.of (.transactionConflict keys attempts)).because last := by
  intro start done
  refine ⟨fun n p e q hbegun hs => ?_, fun n p f q e hbegun ha hf he => ?_,
    concluded_eq_iff keys, fun _ _ _ _ => rfl⟩
  · have ha : r.attempt keys build p = (.error e, q) := attempt_of_setback hs
    exact ⟨uncommitted_of_raised hbegun hs, run_of_failure hbegun ha, counted_of_failure hbegun ha⟩
  · have hdone : done = (.error (concluded keys e), r.warned keys v hook n f q) :=
      run_of_objection hbegun ha hf he
    refine ⟨hdone, ?_⟩
    rw [hdone]
    exact (report_alike ..).trans (conflict_alike hbegun ha hf)

/-- The first build raises a broken watch of its own, and all others write a key. -/
def faintHearted : Build
  | 1 => [.raise (.plain .watch "from build")]
  | _ => [.queue [.text "SET", .text "k", .text "1"]]

theorem run_faintHearted :
    let r : TransactionRunner := {}
    let start : Progress := { session := .start true }
    let e : Failure := .plain .watch "from build"
    ∃ q, (1, start) ∈ r.begun ["k"] faintHearted (.int 2) none start ∧
      r.Setback ["k"] faintHearted start .build e q ∧
      Uncommitted faintHearted start.session start q ∧
      r.Counted ["k"] faintHearted (.int 2) none start 1 e q := by
  intro r start e
  have hbegun : (1, start) ∈ r.begun ["k"] faintHearted (.int 2) none start := List.mem_cons_self
  have hs : r.Setback ["k"] faintHearted start .build e _ := .build (fun _ => rfl) rfl
  obtain ⟨huncommitted, -, hcounted⟩ :=
    (run_meets_callback_failures r ["k"] faintHearted (.int 2) none (.start true)).1 1 start e _
      hbegun hs
  exact ⟨_, hbegun, hs, huncommitted, hcounted rfl⟩

/-- The broken watch that the first build raises is not what the caller meets: the transaction builds
again and has results. -/
theorem faintHearted_is_retried :
    let done := ({} : TransactionRunner).run ["k"] faintHearted (.int 2) none
      { session := .start true }
    (Move.raised (faintHearted 1)).map (·.kind) = some .watch ∧ done.2.builds = 2 ∧
      done.1.isOk = true := by
  decide +kernel

end TransactionRunner
end Leasehold

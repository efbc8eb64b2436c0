import Leasehold.Proofs.Transaction.Callback

/-!
# A lost connection is no conflict

The client reports a connection that was lost under a watch as a broken watch, just as it reports a
watched key that was touched. What is behind the failure tells the two apart.

- **Phases** (`TransactionRunner.surfaced_of_server`): what the server fails with while an attempt
  watches or commits is put in the library's own words.
- **Runs** (`TransactionRunner.run_tells_outage_from_conflict`): a lost connection is the end of a
  run; every other broken watch counts as a conflict.
-/

namespace Leasehold

open Session

namespace TransactionRunner

variable {r : TransactionRunner} {keys : List String} {build : Build} {s : Session} {v : Value}
  {hook : Option Hook} {p q : Progress} {n : Nat} {f inner : Failure} {phase : Phase}

/-- How failures name the operation that a phase is. -/
def Phase.operation : Phase → String
  | .watch => "watch"
  | .build => "build"
  | .commit => "exec"

theorem surfaced_of_server (h : phase ≠ .build) :
    phase.surfaced keys f = f.surfaced phase.operation (keyName keys) := by
  cases phase with
  | watch => rfl
  | build => exact absurd rfl h
  | commit => rfl

/-- An attempt that was cut off changed nothing. -/
theorem unavailable_alike (h : (n, p) ∈ r.begun keys build v hook { session := s })
    {operation : String} {key : Option String}
    (ha : r.attempt keys build p = (.error (inner.unavailable operation key), q)) :
    q.session.Alike (build.outside q.builds s) := by
  have hattempted := r.attempt_cases keys build p
  rw [ha] at hattempted
  obtain ⟨_, -, hq⟩ | ⟨sent, happlied, -⟩ := hattempted.applied_or_not (begun_alike h)
  · exact hq
  · exact absurd rfl happlied.ofRequest.available

/-- **A lost connection is never taken for a conflict.** When the connection is lost while an attempt
watches or commits, the run ends there with a failure that names the operation and the keys and has the
failure of the connection as its cause: nothing more is built, told or logged, and nothing that was
queued takes effect. Every other broken watch counts as a conflict. -/
theorem run_tells_outage_from_conflict (r : TransactionRunner) (keys : List String) (build : Build)
    (v : Value) (hook : Option Hook) (s : Session) (n : Nat) (p : Progress) (phase : Phase)
    (f : Failure) (q : Progress) (begun : (n, p) ∈ r.begun keys build v hook { session := s })
    (server : phase ≠ .build) (setback : r.Setback keys build p phase f q) :
    let done := r.run keys build v hook { session := s }
    let name := String.intercalate "," keys
    (∀ inner, f.Lost inner →
      done.1 = .error ((Failure.of (.storeUnavailable phase.operation
        (if name = "" then none else some name) (some inner.text))).because inner) ∧
      done.2.builds = (if phase = .watch then p.builds else p.builds + 1) ∧
      done.2.notified = p.notified ∧ done.2.session.log = p.session.log ∧
      done.2.session.Alike (build.outside done.2.builds s)) ∧
    (f.isA .watch = true → (∀ inner, ¬ f.Lost inner) →
      r.Counted keys build v hook { session := s } n f q) := by
  intro done name
  have ha : r.attempt keys build p = (.error (f.surfaced phase.operation (keyName keys)), q) := by
    rw [attempt_of_setback setback, surfaced_of_server server]
  refine ⟨fun inner lost => ?_, fun hwatch kept => ?_⟩
  · rw [Failure.surfaced_of_lost lost] at ha
    have hdone : done = (.error (inner.unavailable phase.operation (keyName keys)), q) :=
      run_of_failure begun ha rfl
    have hname : keyName keys = if name = "" then none else some name := by
      unfold keyName
      simp only [String.isEmpty_iff]
      rfl
    rw [hdone, ← hname]
    refine ⟨rfl, ?_, setback.notified, setback.quiet.log, unavailable_alike begun ha⟩
    cases setback with
    | watch => rfl
    | build => exact absurd rfl server
    | commit => rfl
  · rw [Failure.surfaced_of_kept kept] at ha
    exact counted_of_failure begun ha hwatch

/-- Builds that count a key up. During the first somebody else writes the key, and during the second
the server goes down. -/
def cutOffCount : Build
  | 1 => [.queue increment, .happening (.request [.text "SET", .text "n", .int 5])]
  | _ => [.queue increment, .happening (.server false)]

/-- The first attempt of the count conflicts, and the second, which is the last one allowed, is cut off
before it commits: the run ends with that and with no conflict. -/
theorem run_cutOffCount :
    let r : TransactionRunner := {}
    let hook : Option Hook := some fun _ _ => none
    let start : Progress := { session := .start true }
    (∃ p q, (2, p) ∈ r.begun ["n"] cutOffCount (.int 2) hook start ∧ Phase.commit ≠ .build ∧
      r.Setback ["n"] cutOffCount p .commit brokenWatch q) ∧
    brokenWatch.Lost Action.unreachable ∧
    (r.run ["n"] cutOffCount (.int 2) hook start).1 = .error ((Failure.of (.storeUnavailable "exec"
      (some "n") (some Action.unreachable.text))).because Action.unreachable) := by
  intro r hook start
  have hfirst : (1, start) ∈ r.begun ["n"] cutOffCount (.int 2) hook start := List.mem_cons_self
  have hchanged : (r.attempt ["n"] cutOffCount start).1 = .error changed := rfl
  have hsecond := (counted_of_failure hfirst (Prod.ext hchanged rfl) rfl).again 2 rfl rfl (by decide)
  have hcut : r.Setback ["n"] cutOffCount
      (r.warned ["n"] (.int 2) hook 1 changed (r.attempt ["n"] cutOffCount start).2)
      .commit brokenWatch _ :=
    .commit (fun _ => rfl) rfl (List.cons_ne_nil _ _) (Prod.ext rfl rfl)
  have hlost : brokenWatch.Lost Action.unreachable := .context rfl rfl rfl rfl
  have h := run_tells_outage_from_conflict r ["n"] cutOffCount (.int 2) hook _ 2 _ .commit
    brokenWatch _ hsecond (by decide) hcut
  exact ⟨⟨_, _, hsecond, by decide, hcut⟩, hlost, (h.1 _ hlost).1⟩

end TransactionRunner
end Leasehold

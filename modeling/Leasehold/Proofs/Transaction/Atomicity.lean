import Leasehold.Proofs.Transaction.Attempt

/-!
# One batch or nothing

A transaction builds in several attempts, and applies the batch of at most one of them.

- **One attempt** (`TransactionRunner.Attempted.applied_or_not`) has its batch executed on what
  others alone left (`TransactionRunner.Applied`), or fails and leaves that as it is.
- **A run** (`TransactionRunner.run_applies_one_batch`) goes on only after an attempt that changed
  nothing, so whenever an attempt starts the session is as others alone left it.
-/

namespace Leasehold.TransactionRunner

open Session

variable {r : TransactionRunner} {keys : List String} {build : Build} {s : Session}
  {p q : Progress} {outcome : Except Failure (List Value)}

/-- The batch of the last build was executed on the session that others alone left. -/
structure Applied (r : TransactionRunner) (build : Build) (s : Session) (sent : List (List Bytes))
    (outcome : Except Failure (List Value)) (q : Progress) : Prop where
  builds : 0 < q.builds
  unraised : Move.raised (build q.builds) = none
  wire : (Move.queued (build q.builds)).mapM Request.wire? = some sent
  answer : outcome = ((r.execute (Move.queued (build q.builds))
    (sent.map Request.meaning)).perform (build.outside q.builds s)).1
  effect : q.session.Alike ((r.execute (Move.queued (build q.builds))
    (sent.map Request.meaning)).perform (build.outside q.builds s)).2

/-- A failure is arranged in place of the watch of an attempt, or of its commit. -/
def Intercepted (keys : List String) (build : Build) (p : Progress) : Prop :=
  (keys ≠ [] ∧ (p.session.takeFault .watch).1 ≠ none) ∨
    ((built keys build p).takeFault .commit).1 ≠ none

theorem watched_alike (keys : List String) (s : Session) : (watched keys s).Alike s := by
  unfold watched
  split
  · exact .refl s
  · exact takeFault_alike s .watch

theorem built_alike (h : p.session.Alike (build.outside p.builds s)) :
    (built keys build p).Alike (build.outside (p.builds + 1) s) :=
  (Move.outside_alike _ ((watched_alike keys p.session).trans h)).2

theorem Attempted.notified (h : r.Attempted keys build p (outcome, q)) : q.notified = p.notified := by
  cases h <;> rfl

/-- A batch that is executed in an attempt which starts where others alone left the session is
executed on what they left. -/
theorem applied_of_executed (hp : p.session.Alike (build.outside p.builds s))
    {sent : List (List Bytes)} (unraised : Move.raised (build (p.builds + 1)) = none)
    (accepted : r.Accepted keys (batch keys build p) (built keys build p) sent) {s' : Session}
    (done : (r.execute (batch keys build p).requests (sent.map Request.meaning)).perform
      ((built keys build p).takeFault .commit).2 = (outcome, s')) :
    r.Applied build s sent outcome { p with session := s', builds := p.builds + 1 } := by
  have hc : ((built keys build p).takeFault .commit).2.Alike (build.outside (p.builds + 1) s) :=
    (takeFault_alike ..).trans (built_alike hp)
  refine ⟨Nat.succ_pos _, unraised, accepted.sent, ?_, ?_⟩
  · exact (congrArg Prod.fst done).symm.trans (execute_alike hc)
  · have hs := congrArg Prod.snd done
    rw [execute_session] at hs ⊢
    rw [show s' = _ from hs.symm, hc.clock, hc.database]
    exact hc.withDatabase _ _

/-- An attempt that starts where others alone left the session has its batch executed there, or fails
and leaves it to others alone. -/
theorem Attempted.applied_or_not (h : r.Attempted keys build p (outcome, q))
    (hp : p.session.Alike (build.outside p.builds s)) :
    (∃ f, outcome = .error f ∧ q.session.Alike (build.outside q.builds s)) ∨
    ∃ sent, r.Applied build s sent outcome q ∧
      ∀ f, outcome = .error f → ¬ Intercepted keys build p := by
  have hb : (built keys build p).Alike (build.outside (p.builds + 1) s) := built_alike hp
  cases h with
  | unwatched => exact .inl ⟨_, rfl, (watched_alike ..).trans hp⟩
  | raised => exact .inl ⟨_, rfl, hb⟩
  | stopped => exact .inl ⟨_, rfl, (takeFault_alike ..).trans hb⟩
  | idle unraised unqueued =>
    have hq : Move.queued (build (p.builds + 1)) = [] := unqueued
    refine .inr ⟨[], ⟨Nat.succ_pos _, unraised, by rw [hq]; rfl, by rw [hq]; rfl, ?_⟩,
      fun _ h => nomatch h⟩
    rw [execute_session]
    exact hb.trans (withDatabase_alike rfl).symm
  | executed reached unraised queued accepted done =>
    refine .inr ⟨_, applied_of_executed hp unraised accepted done, fun f _ hi => ?_⟩
    obtain ⟨hk, hw⟩ | hf := hi
    · exact hw (reached hk)
    · exact hf accepted.fault

theorem Applied.ofRequest {sent : List (List Bytes)} {f : Failure}
    (h : r.Applied build s sent (.error f) q) : OfRequest f :=
  (execute_error h.answer.symm).ofRequest

/-- A batch that was executed does not end in a conflict. -/
theorem Applied.uncaught {sent : List (List Bytes)} {f : Failure}
    (h : r.Applied build s sent (.error f) q) :
    Retry.catches (fun f => f.isA .watch) f = false := by
  show (f.isA .failure && f.isA .watch) = false
  rw [h.ofRequest.unwatched, Bool.and_false]

/-- Why nothing of a transaction that failed was applied: the failure is of a kind that says so, or
it comes from the build or the hook, or was arranged in place of the last watch or commit. -/
inductive Unapplied (r : TransactionRunner) (keys : List String) (build : Build) (v : Value)
    (hook : Option Hook) (s : Session) (f : Failure) (q : Progress) : Prop where
  | conflict (h : f.kind = .transactionConflict)
  | unavailable (h : f.kind = .storeUnavailable)
  | unsendable (h : f.kind = .data ∨ f = .tooLong)
  | builder {g : Failure} (h : Move.raised (build q.builds) = some g)
  | objected {n : Nat} {c g : Failure} (told : (n, c) ∈ q.notified)
      (h : objection hook n c = some g)
  | injected {n : Nat} {p : Progress}
      (last : (r.begun keys build v hook { session := s }).getLast? = some (n, p))
      (h : Intercepted keys build p)

theorem notify_outside {v : Value} {hook : Option Hook} {n : Nat} {f : Failure} {q' : Progress}
    {o : Except Failure Unit} (h : notify keys v hook n f q = (o, q'))
    (hq : q.session.Alike (build.outside q.builds s)) :
    q'.session.Alike (build.outside q'.builds s) := by
  rw [notify_run] at h
  obtain ⟨-, rfl⟩ := Prod.mk.inj h
  exact (report_alike ..).trans hq

/-- Whenever an attempt of a run starts, the session is as others alone left it, and the hook has
raised nothing so far. -/
theorem begun_outside {v : Value} {hook : Option Hook} {m : Nat}
    (hm : Retry.budget (r.allowance v) = .ok m) :
    ∀ x ∈ r.begun keys build v hook { session := s },
      x.2.session.Alike (build.outside x.2.builds s) ∧
        ∀ c ∈ x.2.notified, objection hook c.1 c.2 = none := by
  intro x hx
  refine (r.begun_forall keys build hm (I := fun _ p =>
    p.session.Alike (build.outside p.builds s) ∧ ∀ c ∈ p.notified, objection hook c.1 c.2 = none)
    ⟨.refl s, fun c hc => absurd hc List.not_mem_nil⟩ ?_ x hx).2
  intro number p f q _ ⟨hp, hh⟩ ha hwatch hob
  have hattempted := r.attempt_cases keys build p
  rw [ha] at hattempted
  obtain ⟨_, -, hq⟩ | ⟨sent, happlied, -⟩ := hattempted.applied_or_not hp
  · refine ⟨(report_alike ..).trans hq, fun c hc => ?_⟩
    dsimp only at hc
    rw [hattempted.notified] at hc
    unfold heard at hc
    split at hc
    · obtain hc | hc := List.mem_append.mp hc
      · exact hh c hc
      · rw [List.mem_singleton.mp hc]
        exact hob
    · exact hh c hc
  · rw [happlied.ofRequest.unwatched] at hwatch
    cases hwatch

/-- What a transaction that ends applied, when others alone would have left the session as they did
up to its last commit. -/
structure OneBatch (r : TransactionRunner) (keys : List String) (build : Build) (v : Value)
    (hook : Option Hook) (s : Session) (outcome : Except Failure (List Value)) (q : Progress) :
    Prop where
  /-- Results are those of the last build, request by request, and nothing else was done. -/
  results : ∀ vs, outcome = .ok vs →
    0 < q.builds ∧ Move.raised (build q.builds) = none ∧
    ∃ d, Request.Served r.client.decodes (build.outside q.builds s).clock
        (Move.queued (build q.builds)) ((build.outside q.builds s).database r.client.database) vs d ∧
      q.session.Alike ((build.outside q.builds s).withDatabase r.client.database d)
  /-- Where there is a reason, nothing was done at all. -/
  nothing : ∀ f, outcome = .error f → r.Unapplied keys build v hook s f q →
    q.session.Alike (build.outside q.builds s)
  /-- A failure without such a reason is an answer to the whole batch. -/
  answered : ∀ f, outcome = .error f → q.session.Alike (build.outside q.builds s) ∨
    Answered f ∧ ∃ sent, (Move.queued (build q.builds)).mapM Request.wire? = some sent ∧
      q.session.Alike ((build.outside q.builds s).withDatabase r.client.database
        (Request.storeAfter (build.outside q.builds s).clock (sent.map Request.meaning)
          ((build.outside q.builds s).database r.client.database)))

section

variable {v : Value} {hook : Option Hook} {f : Failure}

theorem OneBatch.of_outside (h : q.session.Alike (build.outside q.builds s)) :
    r.OneBatch keys build v hook s (.error f) q :=
  ⟨fun _ e => (nomatch e), fun _ _ _ => h, fun _ _ => .inl h⟩

/-- A batch that was executed is all that was done, and nothing speaks against it. -/
theorem OneBatch.of_applied {sent : List (List Bytes)} (h : r.Applied build s sent outcome q)
    (unexplained : ∀ f, outcome = .error f → ¬ r.Unapplied keys build v hook s f q) :
    r.OneBatch keys build v hook s outcome q := by
  have heffect := h.effect
  rw [execute_session] at heffect
  refine ⟨fun vs e => ?_, fun f e hu => absurd hu (unexplained f e), fun f e => ?_⟩
  · exact ⟨h.builds, h.unraised, _, execute_ok h.wire (h.answer.symm.trans e), heffect⟩
  · exact .inr ⟨execute_error (h.answer.symm.trans e), sent, h.wire, heffect⟩

theorem Applied.concluded {sent : List (List Bytes)} (h : r.Applied build s sent outcome q)
    (keys : List String) : outcome.mapError (concluded keys) = outcome := by
  cases outcome with
  | ok vs => rfl
  | error f => exact congrArg Except.error (h.ofRequest.concluded keys)

/-- The answer to a batch explains itself. -/
theorem Applied.unexplained {sent : List (List Bytes)} {n : Nat}
    (h : r.Applied build s sent (.error f) q)
    (last : (r.begun keys build v hook { session := s }).getLast? = some (n, p))
    (hinner : ¬ Intercepted keys build p)
    (hheard : ∀ c ∈ q.notified, objection hook c.1 c.2 = none) :
    ¬ r.Unapplied keys build v hook s f q := by
  intro hu
  cases hu with
  | conflict e => exact h.ofRequest.noConflict e
  | unavailable e => exact h.ofRequest.available e
  | unsendable e => exact e.elim h.ofRequest.sendable h.ofRequest.writable
  | builder e => rw [h.unraised] at e; cases e
  | objected told e => rw [hheard _ told] at e; cases e
  | injected last' e =>
    rw [last] at last'
    cases last'
    exact hinner e

end

/-- A run fails and leaves the session to others alone, or its last attempt has its batch executed and
is the end of it. -/
theorem run_applied_or_not (r : TransactionRunner) (keys : List String) (build : Build) (v : Value)
    (hook : Option Hook) (s : Session) :
    let done := r.run keys build v hook { session := s }
    (∃ f, done.1 = .error f ∧ done.2.session.Alike (build.outside done.2.builds s)) ∨
    ∃ sent n p, r.Applied build s sent done.1 done.2 ∧
      (r.begun keys build v hook { session := s }).getLast? = some (n, p) ∧
      (∀ f, done.1 = .error f → ¬ Intercepted keys build p) ∧
      ∀ c ∈ done.2.notified, objection hook c.1 c.2 = none := by
  intro done
  obtain ⟨f, -, hdone⟩ | ⟨m, number, p, ended, hm, hlast, hends, hdone⟩ :=
    r.run_ends keys build v hook { session := s }
  · rw [show done = _ from hdone]
    exact .inl ⟨f, rfl, .refl s⟩
  rw [show done = _ from hdone]
  obtain ⟨hp, hheard⟩ := begun_outside (s := s) hm _ (List.mem_of_getLast? hlast)
  have hattempted := r.attempt_cases keys build p
  -- An attempt whose conflict was told of was no executed batch.
  have hconflict : ∀ {f : Failure} {q : Progress}, r.Attempted keys build p (.error f, q) →
      Retry.catches (fun f => f.isA .watch) f = true →
      q.session.Alike (build.outside q.builds s) := by
    intro f q hattempted hc
    obtain ⟨_, -, hq⟩ | ⟨sent, happlied, -⟩ := hattempted.applied_or_not hp
    · exact hq
    · rw [happlied.uncaught] at hc
      cases hc
  cases hends with
  | settled ha =>
    rw [ha] at hattempted
    obtain ⟨_, h, -⟩ | ⟨sent, happlied, -⟩ := hattempted.applied_or_not hp
    · cases h
    · exact .inr ⟨sent, number, p, happlied, hlast, fun _ h => (nomatch h),
        hattempted.notified ▸ hheard⟩
  | @failed f q ha other =>
    rw [ha] at hattempted
    obtain ⟨_, -, hq⟩ | ⟨sent, happlied, hinner⟩ := hattempted.applied_or_not hp
    · exact .inl ⟨_, rfl, hq⟩
    · rw [happlied.concluded keys]
      exact .inr ⟨sent, number, p, happlied, hlast, hinner, hattempted.notified ▸ hheard⟩
  | stopped ha conflict told =>
    rw [ha] at hattempted
    exact .inl ⟨_, rfl, notify_outside told (hconflict hattempted conflict)⟩
  | exhausted ha conflict told last =>
    rw [ha] at hattempted
    exact .inl ⟨_, rfl, notify_outside told (hconflict hattempted conflict)⟩

/-- **A transaction applies one batch or nothing.** When it returns results, they are those of the
requests of its last build, served one after the other on the database that others alone left, and
that is all that it did. When it fails, it did nothing at all, unless the last batch was executed and
answered with a refusal or with a reply that cannot be read. -/
theorem run_applies_one_batch (r : TransactionRunner) (keys : List String) (build : Build) (v : Value)
    (hook : Option Hook) (s : Session) :
    let done := r.run keys build v hook { session := s }
    r.OneBatch keys build v hook s done.1 done.2 := by
  intro done
  obtain ⟨f, hf, halike⟩ | ⟨sent, n, p, happlied, hlast, hinner, hheard⟩ :=
    r.run_applied_or_not keys build v hook s
  · rw [show done.1 = _ from hf]
    exact .of_outside halike
  · refine .of_applied happlied fun f hf => ?_
    rw [show done.1 = _ from hf] at happlied
    exact happlied.unexplained hlast (hinner f hf) hheard

end Leasehold.TransactionRunner

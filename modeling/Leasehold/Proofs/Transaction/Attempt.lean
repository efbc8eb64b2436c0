import Leasehold.Proofs.Retry
import Leasehold.Proofs.Transaction.Batch
import Leasehold.Transaction.Runner

/-!
# What attempts do

- **One attempt** (`TransactionRunner.attempt_cases`): everything that it can end with, and the
  progress it leaves (`TransactionRunner.Attempted`).
- **A whole run** (`TransactionRunner.run_ends`): its attempts start one after the other
  (`TransactionRunner.begun`), and the last of them decides how it ends.
- **Others alone** (`Build.outside`): the session as it would be if the builds had queued nothing.
-/

namespace Leasehold

open Session

/-- The session after a number of builds, if others alone did something meanwhile. -/
def Build.outside (build : Build) : Nat → Session → Session
  | 0, s => s
  | n + 1, s => (Move.outside (build (n + 1)) (Build.outside build n s)).2

/-- A step of a transaction that consists of an action fails when the action fails. -/
theorem Progress.doing_eq {α : Type} (a : Action α) (p : Progress) :
    doing a p = ((a.perform p.session).1, { p with session := (a.perform p.session).2 }) := rfl

namespace TransactionRunner

variable (r : TransactionRunner) (keys : List String) (build : Build)

/-! ## One attempt -/

/-- The session in which an attempt builds. -/
def watched (s : Session) : Session := if keys.isEmpty then s else (s.takeFault .watch).2

/-- The session in which an attempt commits. -/
def built (p : Progress) : Session :=
  (Move.outside (build (p.builds + 1)) (watched keys p.session)).2

/-- The batch that an attempt commits, with what was touched since its watch. -/
def batch (p : Progress) : Draft :=
  ⟨Move.queued (build (p.builds + 1)),
    (Move.outside (build (p.builds + 1)) (watched keys p.session)).1⟩

/-- What an attempt ends with. -/
inductive Attempted (p : Progress) : Except Failure (List Value) × Progress → Prop where
  | unwatched {f : Failure} (guarded : keys ≠ [])
      (why : (p.session.takeFault .watch).1 ≠ none ∨ p.session.isUp = false) :
      Attempted p (.error f, { p with session := watched keys p.session })
  | raised {f : Failure} (why : Move.raised (build (p.builds + 1)) = some f) :
      Attempted p (.error f, { p with session := built keys build p, builds := p.builds + 1 })
  | idle (unraised : Move.raised (build (p.builds + 1)) = none)
      (unqueued : (batch keys build p).requests = []) :
      Attempted p (.ok [], { p with session := built keys build p, builds := p.builds + 1 })
  | stopped {f : Failure} (unraised : Move.raised (build (p.builds + 1)) = none)
      (queued : (batch keys build p).requests ≠ [])
      (why : r.Stopped keys (batch keys build p) (built keys build p) f) :
      Attempted p (.error (f.surfaced "exec" (keyName keys)), { p with
        session := ((built keys build p).takeFault .commit).2, builds := p.builds + 1 })
  | executed {sent : List (List Bytes)}
      (reached : keys ≠ [] → (p.session.takeFault .watch).1 = none)
      (unraised : Move.raised (build (p.builds + 1)) = none)
      (queued : (batch keys build p).requests ≠ [])
      (accepted : r.Accepted keys (batch keys build p) (built keys build p) sent)
      {outcome : Except Failure (List Value)} {s' : Session}
      (done : (r.execute (batch keys build p).requests (sent.map Request.meaning)).perform
        ((built keys build p).takeFault .commit).2 = (outcome, s')) :
      Attempted p (outcome, { p with session := s', builds := p.builds + 1 })

/-- A failure that concerns a request: none of the connection, no conflict, and none that a run turns
into another. -/
structure OfRequest (f : Failure) : Prop where
  connected : f.isConnectivity = false
  unwatched : f.isA .watch = false
  noConflict : f.kind ≠ .transactionConflict
  available : f.kind ≠ .storeUnavailable
  sendable : f.kind ≠ .data
  writable : f ≠ .tooLong
  concluded : ∀ keys, concluded keys f = f

theorem Answered.ofRequest {f : Failure} (h : Answered f) : OfRequest f := by
  obtain ⟨place, why, rfl⟩ | ⟨e, rfl⟩ := h
  · exact ⟨rfl, rfl, (nomatch ·), (nomatch ·), (nomatch ·), (nomatch ·), fun _ => rfl⟩
  · exact ⟨rfl, rfl, (nomatch ·), (nomatch ·), (nomatch ·), (nomatch ·), fun _ => rfl⟩

theorem Answered.surfaced {f : Failure} (h : Answered f) (operation : String) (key : Option String) :
    f.surfaced operation key = f := by
  unfold Failure.surfaced
  rw [h.ofRequest.connected, h.ofRequest.unwatched]
  rfl

/-- Building and committing, once an attempt got through to the server. -/
def proceed : Retry.Step Progress (List Value) := do
  let draft ← Progress.building build
  if draft.requests.isEmpty then
    return []
  Progress.doing (Action.surfacing "exec" (keyName keys) (r.commit keys draft))

theorem building_run (p : Progress) :
    Progress.building build { p with session := watched keys p.session } =
      ((match Move.raised (build (p.builds + 1)) with
        | some f => .error f
        | none => .ok (batch keys build p)),
        { p with session := built keys build p, builds := p.builds + 1 }) := by
  unfold Progress.building
  dsimp only
  rw [Draft.build_eq]
  rfl

theorem proceed_cases (p : Progress)
    (reached : keys ≠ [] → (p.session.takeFault .watch).1 = none) : r.Attempted keys build p
    (r.proceed keys build { p with session := watched keys p.session }) := by
  unfold proceed
  rw [Retry.bind_run, building_run]
  cases hraised : Move.raised (build (p.builds + 1)) with
  | some f => exact .raised hraised
  | none =>
    dsimp only
    split
    · rename_i hempty
      exact .idle hraised (List.isEmpty_iff.mp hempty)
    · rename_i hqueued
      replace hqueued : (batch keys build p).requests ≠ [] := fun h => hqueued (by rw [h]; rfl)
      rw [Progress.doing_eq, Action.perform_surfacing]
      dsimp only
      obtain ⟨f, hf, hc⟩ | ⟨sent, ha, hc⟩ :=
        r.commit_cases keys (batch keys build p) (built keys build p)
      · rw [hc]
        exact .stopped hraised hqueued hf
      · rw [hc]
        rcases hdone : (r.execute (batch keys build p).requests
          (sent.map Request.meaning)).perform ((built keys build p).takeFault .commit).2 with ⟨f | vs, s'⟩
        · have hf := execute_error (congrArg Prod.fst hdone)
          dsimp only [Except.mapError]
          rw [hf.surfaced]
          exact .executed reached hraised hqueued ha hdone
        · exact .executed reached hraised hqueued ha hdone

theorem attempt_cases (p : Progress) : r.Attempted keys build p (r.attempt keys build p) := by
  cases keys with
  | nil => exact r.proceed_cases [] build p fun h => absurd rfl h
  | cons k ks =>
    have hattempt : r.attempt (k :: ks) build =
        Progress.doing (Action.surfacing "watch" (keyName (k :: ks)) (Action.reach .watch)) >>=
          fun _ => r.proceed (k :: ks) build := rfl
    rw [hattempt, Retry.bind_run, Progress.doing_eq, Action.perform_surfacing]
    obtain ⟨f, hf, h⟩ | ⟨-, hup, h⟩ | ⟨hf, -, h⟩ := Action.reach_cases .watch p.session
    · rw [h]
      exact .unwatched (List.cons_ne_nil k ks) (.inl (by rw [hf]; exact Option.some_ne_none f))
    · rw [h]
      exact .unwatched (List.cons_ne_nil k ks) (.inr hup)
    · rw [h]
      exact r.proceed_cases (k :: ks) build p fun _ => hf

/-! ## A whole run -/

/-- The number of attempts that a caller asks for, or else the one of the runner. -/
def allowance (v : Value) : Value :=
  match v with
  | .null => .int r.maxRetries
  | v => v

/-- The line of the log for a conflict. -/
def conflictLine (v : Value) (number : Nat) : String :=
  "Watched keys " ++ Text.quotedList keys ++ " changed, attempt " ++ toString number ++ "/" ++
    v.quoted ++ " aborted"

/-- What a hook, if there is one, raises when it is told of a conflict. -/
def objection (hook : Option Hook) (number : Nat) (f : Failure) : Option Failure :=
  hook.bind fun hook => hook number f

/-- What a hook, if there is one, has been told after one more conflict. -/
def heard (hook : Option Hook) (told : List (Nat × Failure)) (number : Nat) (f : Failure) :
    List (Nat × Failure) :=
  if hook.isSome then told ++ [(number, f)] else told

theorem notify_run (v : Value) (hook : Option Hook) (number : Nat) (f : Failure) (p : Progress) :
    notify keys v hook number f p =
      ((match objection hook number f with
        | some g => .error g
        | none => .ok ()),
        { p with
          session := p.session.report .warning (conflictLine keys v number)
          notified := heard hook p.notified number f }) := by
  unfold notify
  rw [Retry.bind_run, Progress.doing_eq, Action.perform_report]
  dsimp only
  cases hook with
  | none => rfl
  | some hook =>
    show Progress.telling hook number f _ = _
    unfold Progress.telling objection heard
    dsimp only [Option.bind_some]
    cases hook number f <;> rfl

/-- The attempts that a run makes: their numbers, and the progress in which they start. -/
def begun (v : Value) (hook : Option Hook) (p : Progress) : List (Nat × Progress) :=
  match Retry.budget (r.allowance v) with
  | .error _ => []
  | .ok m => Retry.starts (fun _ => r.attempt keys build) (fun f => f.isA .watch)
    (notify keys (r.allowance v) hook) 1 (m - 1) p

/-- How the last attempt of a run ends it. -/
abbrev Last (v : Value) (hook : Option Hook) (m n : Nat) (p : Progress) :
    Except Failure (List Value) × Progress → Prop :=
  Retry.Ends (fun _ => r.attempt keys build) (fun f => f.isA .watch)
    (notify keys (r.allowance v) hook) m n p

theorem budget_pos {v : Value} {m : Nat} (h : Retry.budget v = .ok m) : 0 < m := by
  unfold Retry.budget at h
  split at h
  · split at h
    · rename_i n hn
      cases h
      omega
    · cases h
  · cases h

theorem concluded_showing (kind : Kind) (message : String → String) (v : Value) :
    concluded keys (.showing kind message v) = .showing kind message v := by
  unfold Failure.showing
  split <;> rfl

theorem budget_concluded {v : Value} {f : Failure} (h : Retry.budget v = .error f) :
    concluded keys f = f := by
  unfold Retry.budget at h
  split at h
  · split at h <;> cases h
    exact concluded_showing ..
  · cases h
    exact concluded_showing ..

theorem run_eq (v : Value) (hook : Option Hook) (start : Progress) :
    r.run keys build v hook start =
      let done := Retry.run (r.allowance v) (fun _ => r.attempt keys build) (fun f => f.isA .watch)
        (notify keys (r.allowance v) hook) start
      (done.1.mapError (concluded keys), done.2) := by
  generalize hrun : Retry.run (r.allowance v) (fun _ => r.attempt keys build)
    (fun f => f.isA .watch) (notify keys (r.allowance v) hook) start = done
  unfold run
  dsimp only
  split
  · rename_i f p hdone
    rw [show done = _ from hrun.symm.trans hdone]
    rfl
  · rename_i hother
    rcases done with ⟨f | vs, p⟩
    · exact absurd hrun (hother f p)
    · exact hrun

/-- A run is refused before it starts, or ends as its last attempt says. -/
theorem run_ends (v : Value) (hook : Option Hook) (start : Progress) :
    (∃ f, Retry.budget (r.allowance v) = .error f ∧
      r.run keys build v hook start = (.error f, start)) ∨
    ∃ m n p done, Retry.budget (r.allowance v) = .ok m ∧
      (r.begun keys build v hook start).getLast? = some (n, p) ∧
      r.Last keys build v hook m n p done ∧
      r.run keys build v hook start = (done.1.mapError (concluded keys), done.2) := by
  rw [run_eq]
  unfold Retry.run begun
  cases hm : Retry.budget (r.allowance v) with
  | error f =>
    refine .inl ⟨f, rfl, ?_⟩
    exact congrArg (fun f => (Except.error f, start)) (budget_concluded keys hm)
  | ok m =>
    have hpos := budget_pos hm
    obtain ⟨n, p, hlast, hends⟩ := Retry.runFrom_ends (fun _ => r.attempt keys build)
      (fun f => f.isA .watch) (notify keys (r.allowance v) hook) 1 (m - 1) start
    rw [show 1 + (m - 1) = m by omega] at hends
    exact .inr ⟨m, n, p, _, rfl, hlast, hends, rfl⟩

/-- What an attempt that is followed by another keeps holds whenever one starts. -/
theorem begun_forall {v : Value} {hook : Option Hook} {start : Progress} {m : Nat}
    (hm : Retry.budget (r.allowance v) = .ok m) {I : Nat → Progress → Prop} (hstart : I 1 start)
    (step : ∀ number p f q, number < m → I number p → r.attempt keys build p = (.error f, q) →
      f.isA .watch = true → objection hook number f = none →
      I (number + 1) { q with
        session := q.session.report .warning (conflictLine keys (r.allowance v) number)
        notified := heard hook q.notified number f }) :
    ∀ x ∈ r.begun keys build v hook start, x.1 ≤ m ∧ I x.1 x.2 := by
  have hpos := budget_pos hm
  unfold begun
  rw [hm]
  refine Retry.starts_forall (I := I) ?_ hstart (by omega)
  intro number p f q t hlt hI ha hc ho
  rw [notify_run] at ho
  cases hob : objection hook number f with
  | some g => rw [hob] at ho; cases ho
  | none =>
    rw [hob] at ho
    cases ho
    exact step number p f q hlt hI ha ((Bool.and_eq_true _ _).mp hc).2 hob

end TransactionRunner
end Leasehold

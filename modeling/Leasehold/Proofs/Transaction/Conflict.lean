import Leasehold.Proofs.Session.Arranged
import Leasehold.Proofs.Transaction.Atomicity

/-!
# Conflicts are exactly the interferences

- **A server that stays up** (`Session.StaysUp`) while others do whatever else they like.
- **One attempt** (`TransactionRunner.attempt_detects`) conflicts exactly when a watched key was
  touched during its build (`TransactionRunner.Clean`).
- **A run** (`TransactionRunner.run_detects_interference`) ends with its first clean attempt, and
  tells and logs every one before it.
-/

namespace Leasehold

/-! ## A server that stays up -/

namespace Session

variable {s : Session}

/-- The server is up, and no event takes it down. -/
structure StaysUp (s : Session) : Prop where
  isUp : s.isUp = true
  events : ∀ e ∈ s.events, e.happening ≠ .server false

theorem isUp_run {h : Happening} (hs : s.isUp = true) (hh : h ≠ .server false) :
    (h.run s).2.isUp = true := by
  cases h with
  | request r =>
    obtain ⟨_, e⟩ := serve_eq s r
    show (s.serve r).2.isUp = true
    rw [e]
    exact hs
  | server up =>
    cases up with
    | true => rfl
    | false => exact absurd rfl hh

theorem isUp_happenAll {es : List Event} (hs : s.isUp = true)
    (he : ∀ e ∈ es, e.happening ≠ .server false) : (s.happenAll es).2.isUp = true := by
  induction es generalizing s with
  | nil => exact hs
  | cons e es ih =>
    show ((s.happen e).2.happenAll es).2.isUp = true
    refine ih (isUp_run (s := { s with clock := e.due }) hs (he e List.mem_cons_self)) ?_
    exact fun e' he' => he e' (List.mem_cons_of_mem _ he')

theorem StaysUp.through (h : s.StaysUp) (instant : Int) : (s.through instant).2.StaysUp := by
  refine ⟨?_, fun e he => h.events e ?_⟩
  · show (happenAll _ _).2.isUp = true
    exact isUp_happenAll (s := { s with events := _ }) h.isUp
      fun e he => h.events e (List.takeWhile_subset _ he)
  · obtain ⟨_, _, heq⟩ := through_eq s instant
    rw [heq] at he
    exact (List.dropWhile_suffix _).subset he

end Session

open Session

theorem Move.outside_staysUp {moves : List Move} {s : Session} (h : s.StaysUp)
    (hm : .happening (.server false) ∉ moves) : (outside moves s).2.StaysUp := by
  induction moves generalizing s with
  | nil => exact h
  | cons move rest ih =>
    have hrest : Move.happening (.server false) ∉ rest := fun e => hm (List.mem_cons_of_mem _ e)
    cases move with
    | queue r => exact ih h hrest
    | happening hp =>
      refine ih (s := (hp.run s).2) ⟨isUp_run h.isUp fun e => ?_, ?_⟩ hrest
      · subst e
        exact hm List.mem_cons_self
      · obtain ⟨_, _, heq⟩ := hp.run_eq s
        rw [heq]
        exact h.events
    | pass ms => exact ih (h.through _) hrest
    | raise f => exact h

/-- What happens during a build leaves the program's own side of a session as it is. -/
theorem Move.outside_eq (moves : List Move) (s : Session) :
    ∃ dbs up clock events, (outside moves s).2 =
      { s with databases := dbs, isUp := up, clock, events } := by
  induction moves generalizing s with
  | nil => exact ⟨s.databases, s.isUp, s.clock, s.events, rfl⟩
  | cons move rest ih =>
    cases move with
    | queue r => exact ih s
    | happening hp =>
      obtain ⟨_, _, h₁⟩ := hp.run_eq s
      obtain ⟨dbs, up, clock, events, h₂⟩ := ih (hp.run s).2
      refine ⟨dbs, up, clock, events, ?_⟩
      show (outside rest (hp.run s).2).2 = _
      rw [h₂, h₁]
    | pass ms =>
      obtain ⟨_, _, h₁⟩ := through_eq s (s.clock + ms)
      obtain ⟨dbs, up, clock, events, h₂⟩ := ih (s.through (s.clock + ms)).2
      refine ⟨dbs, up, clock, events, ?_⟩
      show (outside rest (s.through (s.clock + ms)).2).2 = _
      rw [h₂, h₁]
    | raise f => exact ⟨s.databases, s.isUp, s.clock, s.events, rfl⟩

theorem Build.outside_staysUp {build : Build} {s : Session} (h : s.StaysUp) (n : Nat)
    (hb : ∀ i, 1 ≤ i → i ≤ n → .happening (.server false) ∉ build i) :
    (build.outside n s).StaysUp := by
  induction n with
  | zero => exact h
  | succ n ih =>
    exact Move.outside_staysUp (ih fun i h₁ h₂ => hb i h₁ (Nat.le_succ_of_le h₂))
      (hb (n + 1) (Nat.succ_pos n) (Nat.le_refl _))

theorem Session.outside_quiet (moves : List Move) (s : Session) :
    Quiet s (Move.outside moves s).2 := by
  obtain ⟨_, _, _, _, h⟩ := Move.outside_eq moves s
  rw [h]
  exact ⟨rfl, rfl, fun _ hx => hx⟩

namespace TransactionRunner

variable {r : TransactionRunner} {keys : List String} {build : Build} {s : Session} {v : Value}
  {hook : Option Hook} {p : Progress}

/-! ## One attempt -/

/-- No watched key was touched during a build, if others alone left the session before it. -/
def Clean (r : TransactionRunner) (keys : List String) (build : Build) (s : Session) (i : Nat) :
    Prop :=
  ∀ k ∈ keys, (r.client.database, Utf8.encode k) ∉
    (Move.outside (build i) (build.outside (i - 1) s)).1

instance (i : Nat) : Decidable (r.Clean keys build s i) := by
  unfold Clean
  infer_instance

/-- A build that raises nothing and queues requests, all of them sendable and understood, while the
server stays up. -/
structure Proper (moves : List Move) : Prop where
  unraised : Move.raised moves = none
  staysUp : .happening (.server false) ∉ moves
  queued : Move.queued moves ≠ []
  known : ∀ request ∈ Move.queued moves,
    ∃ words, request.wire? = some words ∧ Request.meaning words ≠ .malformed

theorem Proper.wire {moves : List Move} (h : Proper moves) :
    ∃ sent, (Move.queued moves).mapM Request.wire? = some sent ∧
      Request.Meaning.malformed ∉ sent.map Request.meaning :=
  Request.forall_known_iff.mp h.known

theorem built_quiet (keys : List String) (build : Build) (p : Progress) :
    Quiet p.session (built keys build p) := by
  refine Quiet.trans ?_ (outside_quiet ..)
  unfold watched
  split
  · exact .refl _
  · exact takeFault_quiet ..

theorem isDirty_iff (hp : p.session.Alike (build.outside p.builds s)) :
    r.isDirty keys (batch keys build p) = true ↔ ¬ r.Clean keys build s (p.builds + 1) := by
  have ht : (batch keys build p).touched =
      (Move.outside (build (p.builds + 1)) (build.outside p.builds s)).1 :=
    (Move.outside_alike _ ((watched_alike keys p.session).trans hp)).1
  unfold isDirty Clean
  rw [ht, Nat.add_sub_cancel]
  simp only [List.any_eq_true, List.contains_iff_mem, not_forall, Classical.not_not, exists_prop]

/-- An attempt that conflicts when a watched key was touched, and has its batch executed when none
was. -/
structure Detects (r : TransactionRunner) (keys : List String) (build : Build) (s : Session)
    (p : Progress) (outcome : Except Failure (List Value)) (q : Progress) : Prop where
  builds : q.builds = p.builds + 1
  notified : q.notified = p.notified
  quiet : Quiet p.session q.session
  verdict : (¬ r.Clean keys build s (p.builds + 1) ∧ outcome = .error changed ∧
      q.session.Alike (build.outside q.builds s)) ∨
    (r.Clean keys build s (p.builds + 1) ∧ ∃ sent, r.Applied build s sent outcome q)

/-- On a server that stays up, an attempt conflicts exactly when a watched key was touched. -/
theorem attempt_detects (hwatch : p.session.Reliable .watch) (hcommit : p.session.Reliable .commit)
    (hup : (build.outside p.builds s).StaysUp) (proper : Proper (build (p.builds + 1)))
    (hp : p.session.Alike (build.outside p.builds s)) :
    r.Detects keys build s p (r.attempt keys build p).1 (r.attempt keys build p).2 := by
  have hattempted := r.attempt_cases keys build p
  have hbuilt : (built keys build p).Alike (build.outside (p.builds + 1) s) := built_alike hp
  have hquiet := built_quiet keys build p
  have hisUp : (built keys build p).isUp = true :=
    hbuilt.isUp.trans (Move.outside_staysUp hup proper.staysUp).isUp
  have hfault : ((built keys build p).takeFault .commit).1 = none := hquiet.takeFault_none hcommit
  obtain ⟨sent, hsent, hknown⟩ : ∃ sent, (batch keys build p).requests.mapM Request.wire? =
    some sent ∧ Request.Meaning.malformed ∉ sent.map Request.meaning := proper.wire
  generalize r.attempt keys build p = done at hattempted ⊢
  cases hattempted with
  | unwatched guarded why =>
    obtain hw | hw := why
    · exact absurd (Quiet.takeFault_none (.refl _) hwatch) hw
    · rw [hp.isUp, hup.isUp] at hw
      cases hw
  | raised why => rw [proper.unraised] at why; cases why
  | idle _ unqueued => exact absurd unqueued proper.queued
  | stopped unraised queued why =>
    cases why with
    | arranged fault => rw [hfault] at fault; cases fault
    | down isUp => rw [hisUp] at isUp; cases isUp
    | unsendable unsent => rw [hsent] at unsent; cases unsent
    | broken isUp => rw [hisUp] at isUp; cases isUp
    | malformed hsent' spoilt =>
      rw [hsent] at hsent'
      cases hsent'
      exact absurd spoilt hknown
    | changed dirty =>
      exact ⟨rfl, rfl, hquiet.trans (takeFault_quiet ..),
        .inl ⟨(isDirty_iff hp).mp dirty, rfl, (takeFault_alike ..).trans hbuilt⟩⟩
  | executed reached unraised queued accepted hexec =>
    have hclean : r.Clean keys build s (p.builds + 1) := by
      by_contra hdirty
      have hd := accepted.clean
      rw [(isDirty_iff hp).mpr hdirty] at hd
      cases hd
    refine ⟨rfl, rfl, ?_, .inr ⟨hclean, _, applied_of_executed hp unraised accepted hexec⟩⟩
    have hs := congrArg Prod.snd hexec
    rw [execute_session] at hs
    dsimp only at hs ⊢
    rw [← hs]
    exact (hquiet.trans (takeFault_quiet ..)).trans (withDatabase_quiet ..)

/-! ## A run -/

/-- What a hook, if there is one, hears of the first conflicts of a run. -/
def toldOf (hook : Option Hook) (conflicts : Nat) : List (Nat × Failure) :=
  if hook.isSome then (List.range conflicts).map fun i => (i + 1, changed) else []

/-- The log after the first conflicts of a run. -/
def logAfter (keys : List String) (v : Value) (s : Session) (conflicts : Nat) : List LogLine :=
  if s.isLogging then
    ((List.range conflicts).map fun i => ⟨.warning, conflictLine keys v (i + 1)⟩).reverse ++ s.log
  else s.log

theorem heard_toldOf (hook : Option Hook) (conflicts : Nat) :
    heard hook (toldOf hook conflicts) (conflicts + 1) changed = toldOf hook (conflicts + 1) := by
  unfold heard toldOf
  split
  · rw [List.range_succ, List.map_append]
    rfl
  · rfl

theorem log_report (keys : List String) (v : Value) (s t : Session) (conflicts : Nat)
    (hlogging : t.isLogging = s.isLogging) (hlog : t.log = logAfter keys v s conflicts) :
    (t.report .warning (conflictLine keys v (conflicts + 1))).log =
      logAfter keys v s (conflicts + 1) := by
  unfold Session.report logAfter at *
  rw [hlogging]
  split
  · rename_i h
    rw [if_pos h] at hlog
    rw [hlog, List.range_succ, List.map_append, List.reverse_append]
    rfl
  · rename_i h
    rwa [if_neg h] at hlog

theorem report_own (s : Session) (level : Level) (message : String) :
    (s.report level message).isLogging = s.isLogging ∧
      (s.report level message).faults = s.faults := by
  unfold Session.report
  split <;> exact ⟨rfl, rfl⟩

/-- A run in which every attempt so far conflicted. -/
structure Contended (r : TransactionRunner) (keys : List String) (build : Build) (v : Value)
    (hook : Option Hook) (s : Session) (p : Progress) : Prop where
  dirty : ∀ i, 1 ≤ i → i ≤ p.builds → ¬ r.Clean keys build s i
  session : p.session.Alike (build.outside p.builds s)
  isLogging : p.session.isLogging = s.isLogging
  faults : ∀ x ∈ p.session.faults, x ∈ s.faults
  notified : p.notified = toldOf hook p.builds
  log : p.session.log = logAfter keys (r.allowance v) s p.builds

/-- One more conflict. -/
theorem Contended.next {q : Progress} (h : r.Contended keys build v hook s p)
    {outcome : Except Failure (List Value)} (hd : r.Detects keys build s p outcome q)
    (hdirty : ¬ r.Clean keys build s (p.builds + 1))
    (hsession : q.session.Alike (build.outside q.builds s)) :
    r.Contended keys build v hook s { q with
      session := q.session.report .warning (conflictLine keys (r.allowance v) (p.builds + 1))
      notified := heard hook q.notified (p.builds + 1) changed } := by
  obtain ⟨hbuilds, hnotified, hquiet, -⟩ := hd
  obtain ⟨hlogging, hfaults⟩ :=
    report_own q.session .warning (conflictLine keys (r.allowance v) (p.builds + 1))
  have hlogging' := hquiet.isLogging.trans h.isLogging
  refine ⟨fun i h₁ h₂ => ?_, (report_alike ..).trans hsession, hlogging.trans hlogging',
    fun x hx => h.faults x (hquiet.faults x (hfaults ▸ hx)), ?_, ?_⟩
  · obtain h₂ | rfl := Nat.lt_or_eq_of_le (hbuilds ▸ h₂)
    · exact h.dirty i h₁ (Nat.lt_succ_iff.mp h₂)
    · exact hdirty
  · dsimp only
    rw [hnotified, h.notified, hbuilds, heard_toldOf]
  · dsimp only
    rw [hbuilds]
    exact log_report keys (r.allowance v) s _ p.builds hlogging' (hquiet.log.trans h.log)

section

variable {m : Nat} (staysUp : s.StaysUp) (watches : s.Reliable .watch) (commits : s.Reliable .commit)
  (proper : ∀ i, 1 ≤ i → i ≤ m → Proper (build i)) (silent : ∀ n f, objection hook n f = none)
include staysUp watches commits proper

/-- The next attempt of a run in which every attempt so far conflicted. -/
theorem Contended.attempt (h : r.Contended keys build v hook s p) (hm : p.builds + 1 ≤ m) :
    r.Detects keys build s p (r.attempt keys build p).1 (r.attempt keys build p).2 :=
  attempt_detects (fun f hf => watches f (h.faults _ hf)) (fun f hf => commits f (h.faults _ hf))
    (Build.outside_staysUp staysUp p.builds fun i h₁ h₂ => (proper i h₁ (by omega)).staysUp)
    (proper (p.builds + 1) (Nat.succ_pos _) hm) h.session

end

/-- Counts a key up. -/
def increment : Request := [.text "INCR", .text "n"]

end TransactionRunner
end Leasehold

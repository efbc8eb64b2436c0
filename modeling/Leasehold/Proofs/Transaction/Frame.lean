import Leasehold.Proofs.Transaction.Atomicity

/-!
# What a transaction leaves alone

A transaction whose builds never touch a key, and during which nobody else does, leaves its entry
alone, however it ends (`TransactionRunner.run_spared`).
-/

namespace Leasehold

open Session

variable {k : Bytes} {s : Session}

/-- A move that never touches a key, nor sets back the clock. -/
def Move.Spares (k : Bytes) : Move → Prop
  | .queue r => r.Spares k
  | .happening h => h.Spares k
  | .pass ms => 0 ≤ ms
  | .raise _ => True

/-- A build that never touches a key, nor sets back the clock. -/
def Build.Spares (build : Build) (k : Bytes) : Prop := ∀ i, ∀ move ∈ build i, move.Spares k

theorem Move.queue_mem {moves : List Move} {r : Request} (h : r ∈ queued moves) :
    .queue r ∈ moves := by
  induction moves with
  | nil => cases h
  | cons move rest ih =>
    cases move with
    | queue r' =>
      obtain rfl | h := List.mem_cons.mp h
      · exact List.mem_cons_self
      · exact List.mem_cons_of_mem _ (ih h)
    | happening _ => exact List.mem_cons_of_mem _ (ih h)
    | pass _ => exact List.mem_cons_of_mem _ (ih h)
    | raise _ => cases h

theorem Move.outside_spared {moves : List Move} (hm : ∀ move ∈ moves, move.Spares k)
    (he : ∀ e ∈ s.events, e.happening.Spares k) : Spared k s (outside moves s).2 := by
  induction moves generalizing s with
  | nil => exact (Alike.refl s).spared k
  | cons move rest ih =>
    have hrest := fun m h => hm m (List.mem_cons_of_mem move h)
    have hmove := hm move List.mem_cons_self
    cases move with
    | queue r => exact ih hrest he
    | happening h =>
      have hrun := run_spared hmove s
      exact hrun.trans (ih hrest fun e h => he e (hrun.events e h))
    | pass ms =>
      have hpass : Spared k s (s.through (s.clock + ms)).2 :=
        passTo_spared he (Int.le_add_of_nonneg_right hmove)
      exact hpass.trans (ih hrest fun e h => he e (hpass.events e h))
    | raise f => exact (Alike.refl s).spared k

theorem Build.outside_spared {build : Build} (hb : build.Spares k)
    (he : ∀ e ∈ s.events, e.happening.Spares k) (n : Nat) : Spared k s (build.outside n s) := by
  induction n with
  | zero => exact (Alike.refl s).spared k
  | succ n ih =>
    exact ih.trans (Move.outside_spared (hb (n + 1)) fun e h => he e (ih.events e h))

theorem Request.find?_storeAfter {now : Int} {requests : List Request} {sent : List (List Bytes)}
    (hsent : requests.mapM wire? = some sent) (hr : ∀ r ∈ requests, r.Spares k) (d : Store) :
    (storeAfter now (sent.map meaning) d).find? k = d.find? k := by
  induction requests generalizing sent d with
  | nil =>
    rw [List.mapM_nil] at hsent
    cases hsent
    rfl
  | cons r rest ih =>
    obtain ⟨words, more, hwords, hmore, rfl⟩ := mapM_cons_eq_some.mp hsent
    rw [List.map_cons]
    show (storeAfter now (more.map meaning) ((meaning words).run now d).store).find? k = _
    rw [ih hmore fun r h => hr r (List.mem_cons_of_mem _ h)]
    exact (Meaning.run_honest _).spared k (hr r List.mem_cons_self words hwords _ _)

/-- A transaction that never touches a key leaves its entry alone, however it ends. -/
theorem TransactionRunner.run_spared (r : TransactionRunner) (keys : List String) {build : Build}
    (v : Value) (hook : Option Hook) (hb : build.Spares k)
    (he : ∀ e ∈ s.events, e.happening.Spares k) :
    Spared k s (r.run keys build v hook { session := s }).2.session := by
  have hout := Build.outside_spared hb he (r.run keys build v hook { session := s }).2.builds
  obtain ⟨_, -, halike⟩ | ⟨sent, _, _, happlied, -⟩ := r.run_applied_or_not keys build v hook s
  · exact hout.trans (halike.spared k)
  · have heffect := happlied.effect
    rw [execute_session] at heffect
    refine hout.trans ((withDatabase_spared ?_).trans (heffect.spared k))
    exact Request.find?_storeAfter happlied.wire (fun r h => hb _ _ (Move.queue_mem h)) _

end Leasehold

import Leasehold.Retry

/-!
# How retries end

The attempts of a retried operation are listed by their numbers and the states in which they start
(`Retry.starts`).

- **Sequences** (`Retry.bind_run`): a step that fails ends the sequence, and what it changed stays
  changed.
- **The last attempt** (`Retry.runFrom_ends`) decides how it all ends (`Retry.Ends`).
- **From any attempt on** (`Retry.runFrom_of_mem`) the rest goes as if that attempt were the first.
- **Invariants** (`Retry.starts_forall`): what holds when the first attempt starts, and is kept by an
  attempt that is followed by another, holds whenever one starts.
-/

namespace Leasehold.Retry

theorem bind_run {σ α β : Type} (a : Step σ α) (f : α → Step σ β) (s : σ) :
    (a >>= f) s =
      match a s with
      | (.ok x, s) => f x s
      | (.error e, s) => (.error e, s) := by
  show (ExceptT.bind a f) s = _
  unfold ExceptT.bind ExceptT.mk
  show (ExceptT.bindCont f (a s).1) (a s).2 = _
  rcases a s with ⟨_ | _, _⟩ <;> rfl

variable {σ α : Type} (attempt : Nat → Step σ α) (isConflict : Failure → Bool)
  (onConflict : Nat → Failure → Step σ Unit)

/-- An attempt ends with a conflict of which the hook may be told without raising anything: the
state in which the next attempt would start. -/
def again? (number : Nat) (s : σ) : Option σ :=
  match attempt number s with
  | (.ok _, _) => none
  | (.error f, s) =>
    if catches isConflict f then
      match onConflict number f s with
      | (.error _, _) => none
      | (.ok (), s) => some s
    else none

/-- The attempts from `number` on, with the states in which they start. -/
def starts (number : Nat) : Nat → σ → List (Nat × σ)
  | 0, s => [(number, s)]
  | left + 1, s =>
    match again? attempt isConflict onConflict number s with
    | none => [(number, s)]
    | some t => (number, s) :: starts (number + 1) left t

/-- How an attempt ends it all, when `attempts` are allowed. -/
inductive Ends (attempts number : Nat) (s : σ) : Except Failure α × σ → Prop where
  | settled {a : α} {s' : σ} (h : attempt number s = (.ok a, s')) : Ends attempts number s (.ok a, s')
  | failed {f : Failure} {s' : σ} (h : attempt number s = (.error f, s'))
      (other : catches isConflict f = false) : Ends attempts number s (.error f, s')
  | stopped {f g : Failure} {s' s'' : σ} (h : attempt number s = (.error f, s'))
      (conflict : catches isConflict f = true) (told : onConflict number f s' = (.error g, s'')) :
      Ends attempts number s (.error g, s'')
  | exhausted {f : Failure} {s' s'' : σ} (h : attempt number s = (.error f, s'))
      (conflict : catches isConflict f = true) (told : onConflict number f s' = (.ok (), s''))
      (last : number = attempts) : Ends attempts number s (.error (exhausted number f), s'')

variable {attempt isConflict onConflict}

theorem again?_eq {number : Nat} {s t : σ}
    (h : again? attempt isConflict onConflict number s = some t) :
    ∃ f s', attempt number s = (.error f, s') ∧ catches isConflict f = true ∧
      onConflict number f s' = (.ok (), t) := by
  unfold again? at h
  split at h
  · cases h
  rename_i f s' ha
  split at h
  · rename_i hc
    split at h
    · cases h
    · rename_i s'' ho
      cases h
      exact ⟨f, s', ha, hc, ho⟩
  · cases h

theorem mem_starts_self (number left : Nat) (s : σ) :
    (number, s) ∈ starts attempt isConflict onConflict number left s := by
  cases left with
  | zero => exact List.mem_singleton_self _
  | succ left =>
    unfold starts
    split <;> exact List.mem_cons_self

variable (attempt isConflict onConflict) in
/-- The last of the attempts decides how they end. -/
theorem runFrom_ends (number left : Nat) (s : σ) :
    ∃ n t, (starts attempt isConflict onConflict number left s).getLast? = some (n, t) ∧
      Ends attempt isConflict onConflict (number + left) n t
        (runFrom attempt isConflict onConflict number left s) := by
  induction left generalizing number s with
  | zero =>
    refine ⟨number, s, rfl, ?_⟩
    unfold runFrom
    rcases ha : attempt number s with ⟨f | a, s'⟩
    · dsimp only
      cases hc : catches isConflict f with
      | false => exact .failed ha hc
      | true =>
        rw [if_pos rfl]
        rcases ho : onConflict number f s' with ⟨g | ⟨⟩, s''⟩
        · exact .stopped ha hc ho
        · exact .exhausted ha hc ho rfl
    · exact .settled ha
  | succ left ih =>
    unfold runFrom starts again?
    rcases ha : attempt number s with ⟨f | a, s'⟩
    · dsimp only
      cases hc : catches isConflict f with
      | false => exact ⟨number, s, rfl, .failed ha hc⟩
      | true =>
        rw [if_pos rfl, if_pos rfl]
        rcases ho : onConflict number f s' with ⟨g | ⟨⟩, s''⟩
        · exact ⟨number, s, rfl, .stopped ha hc ho⟩
        · obtain ⟨n, t, hlast, hends⟩ := ih (number + 1) s''
          refine ⟨n, t, ?_, ?_⟩
          · rw [List.getLast?_cons_of_ne_nil (List.ne_nil_of_mem (mem_starts_self _ _ _))]
            exact hlast
          · rw [show number + (left + 1) = number + 1 + left by omega]
            exact hends
    · exact ⟨number, s, rfl, .settled ha⟩

theorem runFrom_again {number left : Nat} {s t : σ}
    (h : again? attempt isConflict onConflict number s = some t) :
    runFrom attempt isConflict onConflict number (left + 1) s =
      runFrom attempt isConflict onConflict (number + 1) left t := by
  obtain ⟨f, s', ha, hc, ho⟩ := again?_eq h
  rw [runFrom]
  simp only [ha, hc, ho, if_true]

/-- From any attempt that starts, all goes on as if it were the first. -/
theorem runFrom_of_mem {number left n : Nat} {s t : σ}
    (h : (n, t) ∈ starts attempt isConflict onConflict number left s) :
    ∃ rest, n + rest = number + left ∧
      runFrom attempt isConflict onConflict number left s =
        runFrom attempt isConflict onConflict n rest t ∧
      ∀ x ∈ starts attempt isConflict onConflict n rest t,
        x ∈ starts attempt isConflict onConflict number left s := by
  induction left generalizing number s with
  | zero =>
    obtain ⟨rfl, rfl⟩ := Prod.mk.inj (List.mem_singleton.mp h)
    exact ⟨0, rfl, rfl, fun _ hx => hx⟩
  | succ left ih =>
    rw [starts] at h ⊢
    split at h
    · rename_i hnone
      obtain ⟨rfl, rfl⟩ := Prod.mk.inj (List.mem_singleton.mp h)
      refine ⟨left + 1, rfl, rfl, fun x hx => ?_⟩
      rwa [starts, hnone] at hx
    · rename_i t' ht'
      rcases List.mem_cons.mp h with h | h
      · obtain ⟨rfl, rfl⟩ := Prod.mk.inj h
        refine ⟨left + 1, rfl, rfl, fun x hx => ?_⟩
        rwa [starts, ht'] at hx
      · obtain ⟨rest, hrest, hrun, hsub⟩ := ih h
        exact ⟨rest, by omega, (runFrom_again ht').trans hrun,
          fun x hx => List.mem_cons_of_mem _ (hsub x hx)⟩

/-- What an attempt that is followed by another keeps holds whenever one starts. -/
theorem starts_forall {I : Nat → σ → Prop} {attempts : Nat}
    (step : ∀ number s f s' t, number < attempts → I number s → attempt number s = (.error f, s') →
      catches isConflict f = true → onConflict number f s' = (.ok (), t) → I (number + 1) t)
    {number left : Nat} {s : σ} (hs : I number s) (hn : number + left = attempts) :
    ∀ x ∈ starts attempt isConflict onConflict number left s, x.1 ≤ attempts ∧ I x.1 x.2 := by
  induction left generalizing number s with
  | zero =>
    intro x hx
    rw [starts, List.mem_singleton] at hx
    subst hx
    exact ⟨Nat.le_of_eq hn, hs⟩
  | succ left ih =>
    intro x hx
    unfold starts at hx
    split at hx
    · rw [List.mem_singleton] at hx
      subst hx
      exact ⟨by omega, hs⟩
    · rename_i t ht
      obtain ⟨f, s', ha, hc, ho⟩ := again?_eq ht
      rcases List.mem_cons.mp hx with rfl | hx
      · exact ⟨by omega, hs⟩
      · exact ih (step number s f s' t (by omega) hs ha hc ho) (by omega) x hx

end Leasehold.Retry

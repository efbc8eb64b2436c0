import Leasehold.Proofs.Session.Issue

/-!
# Arranged failures

Which failures are arranged for the commands of a session, and what issuing a command leaves of them.

- **One command** (`Session.takeFrom`) uses up the next of what is arranged for its point: the rest
  stays (`Session.takeFrom_subset`), and so does all that is arranged for other points
  (`Session.arrangedAt_takeFault`).
- **Reliable points** (`Session.Reliable`): no failure is arranged there.
- **Quiet sessions** (`Session.Quiet`): later ones, in which nothing more was logged or arranged.
-/

namespace Leasehold

namespace Session

variable {s t u : Session} {p : Point}

/-! ## One command -/

theorem takeFrom_subset (p : Point) (fs : List (Point × Option Failure)) :
    ∀ x ∈ (takeFrom p fs).2, x ∈ fs := by
  induction fs with
  | nil => exact fun x hx => hx
  | cons f fs ih =>
    obtain ⟨q, f⟩ := f
    intro x hx
    unfold takeFrom at hx
    split at hx
    · exact List.mem_cons_of_mem _ hx
    · obtain rfl | hx := List.mem_cons.mp hx
      · exact List.mem_cons_self
      · exact List.mem_cons_of_mem _ (ih x hx)

theorem takeFrom_mem {fs : List (Point × Option Failure)} {f : Failure}
    (h : (takeFrom p fs).1 = some f) : (p, some f) ∈ fs := by
  induction fs with
  | nil => cases h
  | cons g fs ih =>
    obtain ⟨q, g⟩ := g
    unfold takeFrom at h
    split at h
    · rename_i hq
      dsimp only at h
      rw [hq, h]
      exact List.mem_cons_self
    · exact List.mem_cons_of_mem _ (ih h)

/-- What is arranged for the commands that will be issued at a point. -/
def arrangedAt (s : Session) (p : Point) : List (Option Failure) :=
  (s.faults.filter fun x => x.1 = p).map (·.2)

theorem takeFrom_other {p q : Point} (h : q ≠ p) (fs : List (Point × Option Failure)) :
    (takeFrom p fs).2.filter (fun x => x.1 = q) = fs.filter fun x => x.1 = q := by
  induction fs with
  | nil => rfl
  | cons f fs ih =>
    obtain ⟨o, f⟩ := f
    unfold takeFrom
    split
    · rename_i ho
      subst ho
      simp [Ne.symm h]
    · simp only [List.filter_cons, ih]

/-- A command that is issued at a point uses up nothing that is arranged for another. -/
theorem arrangedAt_takeFault {p q : Point} (h : q ≠ p) (s : Session) :
    (s.takeFault p).2.arrangedAt q = s.arrangedAt q :=
  congrArg (List.map _) (takeFrom_other h s.faults)

/-! ## Quiet sessions -/

/-- A later session with the same log, in which no new failures are arranged. -/
structure Quiet (s t : Session) : Prop where
  log : t.log = s.log
  isLogging : t.isLogging = s.isLogging
  faults : ∀ x ∈ t.faults, x ∈ s.faults

theorem Quiet.refl (s : Session) : Quiet s s := ⟨rfl, rfl, fun _ hx => hx⟩

theorem Quiet.trans (h₁ : Quiet s t) (h₂ : Quiet t u) : Quiet s u :=
  ⟨h₂.log.trans h₁.log, h₂.isLogging.trans h₁.isLogging, fun x hx => h₁.faults x (h₂.faults x hx)⟩

theorem takeFault_quiet (s : Session) (p : Point) : Quiet s (s.takeFault p).2 :=
  ⟨rfl, rfl, takeFrom_subset p s.faults⟩

theorem withDatabase_quiet (s : Session) (n : Int) (d : Store) : Quiet s (s.withDatabase n d) :=
  ⟨rfl, rfl, fun _ hx => hx⟩

/-- Nothing is arranged to fail at a point. -/
def Reliable (s : Session) (p : Point) : Prop := ∀ f, (p, some f) ∉ s.faults

theorem Quiet.takeFault_none (h : Quiet s t) (hs : s.Reliable p) : (t.takeFault p).1 = none := by
  cases hf : (t.takeFault p).1 with
  | none => rfl
  | some f => exact absurd (h.faults _ (takeFrom_mem hf)) (hs f)

end Session

theorem Action.reach_session (p : Point) (s : Session) :
    ((reach p).perform s).2 = (s.takeFault p).2 := by
  obtain ⟨_, -, h⟩ | ⟨-, -, h⟩ | ⟨-, -, h⟩ := reach_cases p s <;> rw [h]

end Leasehold

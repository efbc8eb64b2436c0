import Leasehold.Failure.Surfacing

/-!
# Lost connections

A failure says that the connection was lost when it is a failure of the connection, or a broken watch
with one right behind it (`Failure.Lost`).

- **Surfacing**: lost connections are put in the library's own words, and nothing else is
  (`Failure.surfaced_of_lost`, `Failure.surfaced_of_kept`), so callers meet no failure of the
  connection (`Failure.isConnectivity_surfaced`).
- **Foreign failures** (`Failure.kept_of_foreign`): those of the system and cancellation are not of the
  store, though some have the names of failures that are.
-/

namespace Leasehold

namespace Kind

theorem isA_watch {k : Kind} : k.isA .watch = true ↔ k = .watch := by
  constructor
  · intro h
    unfold isA at h
    rw [List.contains_iff_mem] at h
    cases k with
    | watch => rfl
    | _ => simp [lineage] at h
  · rintro rfl
    rfl

/-- The kinds of the system and cancellation are not of the store. -/
theorem foreign {k : Kind} (h : k.isA system = true ∨ k = cancelled) :
    k.isConnectivity = false ∧ k.isA watch = false := by
  obtain h | rfl := h
  · unfold isA at h
    rw [List.contains_iff_mem] at h
    cases k with
    | application path => simp [lineage] at h
    | system | connection | connectionRefused | timeout | fileMissing | fileIsDirectory
    | fileNotDirectory => exact ⟨rfl, rfl⟩
    | _ => simp [lineage] at h
  · exact ⟨rfl, rfl⟩

end Kind

namespace Failure

/-- A failure says that the connection was lost, because of another: itself, or for a broken watch its
cause, or without a cause its context. -/
inductive Lost : Failure → Failure → Prop where
  | connection {f : Failure} (lost : f.isConnectivity = true) : Lost f f
  | cause {f inner : Failure} (broken : f.isA .watch = true) (behind : f.cause = some inner)
      (lost : inner.isConnectivity = true) : Lost f inner
  | context {f inner : Failure} (broken : f.isA .watch = true) (uncaused : f.cause = none)
      (behind : f.context = some inner) (lost : inner.isConnectivity = true) : Lost f inner

variable {f inner : Failure}

theorem connected_of_watch (h : f.isA .watch = true) : f.isConnectivity = false := by
  unfold isConnectivity
  rw [Kind.isA_watch.mp h]
  rfl

theorem lost_iff_of_watch (h : f.isA .watch = true) :
    f.Lost inner ↔ f.behind = some inner ∧ inner.isConnectivity = true := by
  unfold behind
  constructor
  · intro hlost
    cases hlost with
    | connection lost => rw [connected_of_watch h] at lost; cases lost
    | cause _ behind lost => exact ⟨by rw [behind]; rfl, lost⟩
    | context _ uncaused behind lost => exact ⟨by rw [uncaused, behind]; rfl, lost⟩
  · rintro ⟨hbehind, lost⟩
    cases hc : f.cause with
    | none => rw [hc] at hbehind; exact .context h hc hbehind lost
    | some g => rw [hc] at hbehind; cases hbehind; exact .cause h hc lost

theorem surfaced_of_lost (h : f.Lost inner) (operation : String) (key : Option String) :
    f.surfaced operation key = unavailable operation key inner := by
  unfold surfaced
  by_cases hw : f.isA .watch = true
  · obtain ⟨hbehind, lost⟩ := (lost_iff_of_watch hw).mp h
    simp [connected_of_watch hw, hw, hbehind, lost]
  · cases h with
    | connection lost => rw [if_pos lost]
    | cause broken => exact absurd broken hw
    | context broken => exact absurd broken hw

theorem surfaced_of_kept (h : ∀ inner, ¬ f.Lost inner) (operation : String) (key : Option String) :
    f.surfaced operation key = f := by
  unfold surfaced
  rw [if_neg fun lost => h f (.connection lost)]
  split
  · rename_i hw
    split
    · rename_i inner hbehind
      rw [if_neg fun lost => h inner ((lost_iff_of_watch hw).mpr ⟨hbehind, lost⟩)]
    · rfl
  · rfl

/-- What callers meet is never a failure of the connection. -/
theorem isConnectivity_surfaced (f : Failure) (operation : String) (key : Option String) :
    (f.surfaced operation key).isConnectivity = false := by
  by_cases h : ∃ inner, f.Lost inner
  · obtain ⟨inner, lost⟩ := h
    rw [surfaced_of_lost lost]
    rfl
  · have kept : ∀ inner, ¬ f.Lost inner := fun inner lost => h ⟨inner, lost⟩
    rw [surfaced_of_kept kept]
    exact Bool.eq_false_iff.mpr fun lost => kept f (.connection lost)

/-- A failure of a kind that is not of the store says nothing about the connection. -/
theorem kept_of_kind {k : Kind} (h : f.kind = k) (connected : k.isConnectivity = false)
    (unwatched : k.isA .watch = false) (inner : Failure) : ¬ f.Lost inner := by
  subst h
  intro lost
  cases lost with
  | connection lost => rw [show f.isConnectivity = _ from connected] at lost; cases lost
  | cause broken | context broken => rw [show f.isA .watch = _ from unwatched] at broken; cases broken

/-- Failures of the system and cancellation say nothing about the store, whatever is behind them. -/
theorem kept_of_foreign (h : f.isA .system = true ∨ f.kind = .cancelled) (inner : Failure) :
    ¬ f.Lost inner :=
  kept_of_kind rfl (Kind.foreign h).1 (Kind.foreign h).2 inner

end Failure

end Leasehold

import Leasehold.Proofs.Lock.Operation
import Leasehold.Proofs.Session.Working

/-!
# What lock operations leave behind

How the store looks after an operation, entry by entry, whatever it held before: the keys of others,
lists, bytes that are no text, entries with and without a deadline.

- **Nothing** (`Session.SameEntries`): all that a failure, a refusal or a look leaves.
- **One lock** (`LockManager.Leaves`): its entry, under its key with the manager's prefix in front, is
  new, and every other entry is as it was.
- **Footprints** (`LockManager.Footprint`): the former, unless the operation says that it succeeded. What
  a success found before it is part of them, so nobody's lock is touched with another token.
-/

namespace Leasehold

open Session

/-- A session at the same instant, with the same entries in all databases. -/
structure Session.SameEntries (s s' : Session) : Prop where
  clock : s'.clock = s.clock
  entry : ∀ n k, (s'.database n).find? k = (s.database n).find? k

theorem Session.Alike.sameEntries {s s' : Session} (h : s'.Alike s) : s.SameEntries s' :=
  ⟨h.clock, fun n k => by rw [h.database]⟩

/-- Writing to one key of a database changes no other entry. -/
theorem Session.find?_withDatabase_elsewhere {s : Session} {n : Int} {d : Store} {k : Bytes}
    (h : ∀ l ≠ k, d.find? l = (s.database n).find? l) {n' : Int} {l : Bytes}
    (hl : (n', l) ≠ (n, k)) :
    ((s.withDatabase n d).database n').find? l = (s.database n').find? l := by
  rw [database_withDatabase]
  split
  · rename_i hn
    rw [hn]
    exact h l fun hk => hl (by rw [hn, hk])
  · rfl

namespace LockManager

variable (m : LockManager) (key token : String) (s : Session)

/-! ## Entries of a lock -/

theorem lease_isLive (ttl : Period) : (lease token s ttl).isLive s.clock = true := by
  have hpos := ttl.property
  show decide (s.clock ≤ s.clock + (ttl.val : Int)) = true
  rw [decide_eq_true_eq]
  omega

theorem entry_withEntry {e : Entry} (h : e.isLive s.clock = true) :
    m.entry key (m.withEntry key s e) = some e := by
  unfold entry withEntry
  rw [database_withDatabase_self, Store.live_put, if_pos rfl]
  exact (Option.filter_some ..).trans (if_pos h)

theorem entry_withoutEntry : m.entry key (m.withoutEntry key s) = none := by
  unfold entry withoutEntry
  rw [database_withDatabase_self, Store.live_erase, if_pos rfl]

/-! ## Footprints -/

/-- A session at the same instant, in which a lock has a certain entry, and every other entry of every
database is as it was. -/
structure Leaves (after : Option Entry) (s' : Session) : Prop where
  clock : s'.clock = s.clock
  lock : m.entry key s' = after
  elsewhere : ∀ n k, (n, k) ≠ (m.client.database, Utf8.encode (m.keyPrefix ++ key)) →
    (s'.database n).find? k = (s.database n).find? k

/-- What an operation on a lock leaves: nothing, or, if it says that it succeeded, the lock alone with
one of certain entries. Then it found what it needs. -/
inductive Footprint (found : Prop) (after : Option Entry → Prop) :
    Except Failure Bool × Session → Prop where
  | failed {f : Failure} {s' : Session} (same : s.SameEntries s') :
      Footprint found after (.error f, s')
  | declined {s' : Session} (lacking : ¬ found) (same : s.SameEntries s') :
      Footprint found after (.ok false, s')
  | done {s' : Session} {e : Option Entry} (needed : found) (right : after e)
      (only : m.Leaves key s e s') : Footprint found after (.ok true, s')

variable {s} in
theorem leaves_withEntry {e : Entry} (h : e.isLive s.clock = true) {s' : Session}
    (alike : s'.Alike (m.withEntry key s e)) : m.Leaves key s (some e) s' where
  clock := alike.clock
  lock := (entry_congr alike).trans (m.entry_withEntry key s h)
  elsewhere n k hk := by
    rw [alike.database]
    exact find?_withDatabase_elsewhere (fun l hl => by rw [Store.find?_put, if_neg hl]) hk

variable {s} in
theorem leaves_withoutEntry {s' : Session} (alike : s'.Alike (m.withoutEntry key s)) :
    m.Leaves key s none s' where
  clock := alike.clock
  lock := (entry_congr alike).trans (m.entry_withoutEntry key s)
  elsewhere n k hk := by
    rw [alike.database]
    exact find?_withDatabase_elsewhere (fun l hl => by rw [Store.find?_erase, if_neg hl]) hk

variable {m key s} in
theorem Footprint.weaken {found : Prop} {after after' : Option Entry → Prop}
    {done : Except Failure Bool × Session} (h : m.Footprint key s found after done)
    (imp : ∀ e, after e → after' e) : m.Footprint key s found after' done := by
  cases h with
  | failed same => exact .failed same
  | declined lacking same => exact .declined lacking same
  | done needed right only => exact .done needed (imp _ right) only

variable {m key s} in
/-- An operation that lacks what it needs does not succeed, so it changes no entry. -/
theorem Footprint.same_of_lacking {found : Prop} {after : Option Entry → Prop}
    {done : Except Failure Bool × Session} (h : m.Footprint key s found after done)
    (lacking : ¬ found) : s.SameEntries done.2 := by
  cases h with
  | failed same => exact same
  | declined _ same => exact same
  | done needed => exact absurd needed lacking

/-! ## Operations -/

theorem take_working (ttl : Period) : (m.take key token ttl).Working :=
  .bind (.surfacing (.ask _ _ _ _) _ _) fun _ => .bind (.report _ _) fun _ => .pure _

theorem guarded_working (operation : String) (script : Script) :
    (m.guarded operation key token script).Working :=
  .bind (.surfacing (.ask _ _ _ _) _ _) fun _ => .pure _

theorem release_working : (m.release key token).Working :=
  .bind (m.guarded_working key token _ _) fun _ => .bind (.report _ _) fun _ => .pure _

theorem extend_working (ttl : Value) : (m.extend key token ttl).Working :=
  .bind (.ofExcept _) fun _ => .bind (m.guarded_working key token _ _) fun _ =>
    .bind (.report _ _) fun _ => .pure _

theorem owner?_working : (m.owner? key).Working :=
  .bind (.surfacing (.ask _ _ _ _) _ _) fun _ => .ofExcept _

theorem take_footprint (ttl : Period) :
    m.Footprint key s (m.entry key s = none) (· = some (lease token s ttl))
      ((m.take key token ttl).perform s) := by
  have hspec := m.take_spec key token s ttl
  generalize (m.take key token ttl).perform s = done at hspec ⊢
  cases hspec with
  | failed why alike => exact .failed alike.sameEntries
  | busy present alike => exact .declined present alike.sameEntries
  | taken absent alike =>
    exact .done absent rfl (m.leaves_withEntry key (lease_isLive token s ttl) alike)

theorem acquire_footprint (token : Option String) (ttl : Value) :
    m.Footprint key s (m.entry key s = none)
      (fun e => ∃ p, m.lifetime ttl = .ok p ∧ e = some (lease (tokenAt token s) s p))
      ((m.acquire key token ttl).perform s) := by
  rw [acquire_eq]
  cases hp : m.lifetime ttl with
  | error f => exact .failed (Alike.refl s).sameEntries
  | ok p => exact (m.take_footprint key (tokenAt token s) s p).weaken fun e he => ⟨p, rfl, he⟩

theorem release_footprint :
    m.Footprint key s (m.Holds key token s) (· = none) ((m.release key token).perform s) := by
  have hspec := m.release_spec key token s
  generalize (m.release key token).perform s = done at hspec ⊢
  cases hspec with
  | failed why alike => exact .failed alike.sameEntries
  | foreign other alike => exact .declined other alike.sameEntries
  | done held alike => exact .done held rfl (m.leaves_withoutEntry key alike)

theorem extend_footprint (ttl : Value) :
    m.Footprint key s (m.Holds key token s)
      (fun e => ∃ p, Parameter.period "additional_ttl_ms" ttl = .ok p ∧ e = some (lease token s p))
      ((m.extend key token ttl).perform s) := by
  cases hp : Parameter.period "additional_ttl_ms" ttl with
  | error f =>
    rw [m.extend_refused key token s hp]
    exact .failed (Alike.refl s).sameEntries
  | ok p =>
    have hspec := m.extend_spec key token s hp
    generalize (m.extend key token ttl).perform s = done at hspec ⊢
    cases hspec with
    | failed why alike => exact .failed alike.sameEntries
    | foreign other alike => exact .declined other alike.sameEntries
    | done held alike =>
      exact .done held ⟨p, rfl, rfl⟩ (m.leaves_withEntry key (lease_isLive token s p) alike)

/-- Looking changes no entry, also when it fails. -/
theorem Looked.sameEntries {α : Type} {s : Session} {right : α → Prop} {wrong : Failure → Prop}
    {done : Except Failure α × Session} (h : Looked s right wrong done) :
    s.SameEntries done.2 := by
  cases h with
  | failed _ alike => exact alike.sameEntries
  | answered _ alike => exact alike.sameEntries

/-- **A lock operation changes one entry, or none.** Whatever is stored, whatever the parameters and
whatever fails: taking, giving back and prolonging change the entry of the lock alone, the one under its
key with the prefix in front, and only when they say so; looking changes nothing. With a token that does
not hold the lock, giving back and prolonging change nothing. -/
theorem operations_footprint (m : LockManager) (key : String) (s : Session) :
    m.storeKey key = m.keyPrefix ++ key ∧
    (∀ token ttl, m.Footprint key s (m.entry key s = none)
      (fun e => ∃ p, m.lifetime ttl = .ok p ∧ e = some (lease (tokenAt token s) s p))
      ((m.acquire key token ttl).perform s)) ∧
    (∀ token, m.Footprint key s (m.Holds key token s) (· = none)
      ((m.release key token).perform s)) ∧
    (∀ token ttl, m.Footprint key s (m.Holds key token s)
      (fun e => ∃ p, Parameter.period "additional_ttl_ms" ttl = .ok p ∧ e = some (lease token s p))
      ((m.extend key token ttl).perform s)) ∧
    s.SameEntries ((m.isLocked key).perform s).2 ∧
    s.SameEntries ((m.owner? key).perform s).2 ∧
    ∀ token, m.Holds key token s ∨
      (s.SameEntries ((m.release key token).perform s).2 ∧
        ∀ ttl, s.SameEntries ((m.extend key token ttl).perform s).2) := by
  refine ⟨m.storeKey_eq key, m.acquire_footprint key s, fun token => m.release_footprint key token s,
    fun token ttl => m.extend_footprint key token s ttl, (m.isLocked_spec key s).sameEntries,
    (m.owner?_spec key s).sameEntries, fun token => ?_⟩
  by_cases hheld : m.Holds key token s
  · exact .inl hheld
  · exact .inr ⟨(m.release_footprint key token s).same_of_lacking hheld,
      fun ttl => (m.extend_footprint key token s ttl).same_of_lacking hheld⟩

end LockManager
end Leasehold

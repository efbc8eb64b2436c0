import Leasehold.Proofs.Store.Frame
import Leasehold.Session.Basic

/-!
# What happens from outside

Other clients, the server going down or coming back, and the clock.

- **What stays** (`Session.through_eq`): time that passes changes the databases, the server and the
  clock, and uses up events. The program's own side (log, arranged failures) stays.
- **Alike sessions** (`Session.Alike`): the clock, the server and the events are the same. The same
  then happens in both (`Happening.run_alike`, `Session.Alike.through`), whatever was logged.
- **Two waits are one** (`Session.passTo_passTo`): passing to an instant by way of an earlier one.
- **Untouched keys** (`Session.find?_through`): what does not touch a key leaves its entry alone.
- **Sparing a key** (`Request.Spares`): a request that never touches a key leaves its entry alone,
  and so does time in which only such requests come (`Session.passTo_spared`).
-/

namespace Leasehold

variable {s t : Session}

namespace Session

/-! ## Databases -/

theorem lookup_filter_ne {n k : Int} (h : k ≠ n) (ds : List (Int × Store)) :
    (ds.filter fun e => e.1 != n).lookup k = ds.lookup k := by
  induction ds with
  | nil => rfl
  | cons d ds ih =>
    obtain ⟨l, d⟩ := d
    by_cases hl : l = n
    · have hk : (k == l) = false := by rw [beq_eq_false_iff_ne]; exact hl ▸ h
      rw [List.filter_cons_of_neg (by simpa using hl), ih, List.lookup_cons, hk]
    · rw [List.filter_cons_of_pos (by simpa using hl), List.lookup_cons, List.lookup_cons, ih]

theorem database_withDatabase (s : Session) (n : Int) (d : Store) (k : Int) :
    (s.withDatabase n d).database k = if k = n then d else s.database k := by
  by_cases h : k = n
  · simp [database, withDatabase, h]
  · have hk : (k == n) = false := by rw [beq_eq_false_iff_ne]; exact h
    rw [if_neg h]
    simp only [database, withDatabase, List.lookup_cons, hk, lookup_filter_ne h]

@[simp] theorem database_withDatabase_self (s : Session) (n : Int) (d : Store) :
    (s.withDatabase n d).database n = d := by rw [database_withDatabase, if_pos rfl]

/-! ## What stays -/

theorem serve_eq (s : Session) (r : Request) :
    ∃ dbs, (s.serve r).2 = { s with databases := dbs } := by
  unfold serve
  cases r.wire? with
  | none => exact ⟨s.databases, rfl⟩
  | some words => exact ⟨_, rfl⟩

end Session

theorem Happening.run_eq (h : Happening) (s : Session) :
    ∃ dbs up, (h.run s).2 = { s with databases := dbs, isUp := up } := by
  cases h with
  | request r =>
    obtain ⟨dbs, e⟩ := Session.serve_eq s r
    exact ⟨dbs, s.isUp, e⟩
  | server up => exact ⟨s.databases, up, rfl⟩

namespace Session

theorem happenAll_eq (es : List Event) (s : Session) :
    ∃ dbs up clock, (s.happenAll es).2 = { s with databases := dbs, isUp := up, clock } := by
  induction es generalizing s with
  | nil => exact ⟨s.databases, s.isUp, s.clock, rfl⟩
  | cons e es ih =>
    obtain ⟨dbs, up, h₁⟩ := e.happening.run_eq { s with clock := e.due }
    obtain ⟨dbs', up', clock, h₂⟩ := ih (s.happen e).2
    refine ⟨dbs', up', clock, ?_⟩
    show ((s.happen e).2.happenAll es).2 = _
    rw [h₂, happen, h₁]

/-- Time that passes leaves the program's own side of a session as it is. -/
theorem through_eq (s : Session) (instant : Int) :
    ∃ dbs up, (s.through instant).2 = { s with
      databases := dbs, isUp := up, clock := instant,
      events := s.events.dropWhile fun e => decide (e.due ≤ instant) } := by
  obtain ⟨dbs, up, clock, h⟩ := happenAll_eq
    (s.events.takeWhile fun e => decide (e.due ≤ instant))
    { s with events := s.events.dropWhile fun e => decide (e.due ≤ instant) }
  refine ⟨dbs, up, ?_⟩
  show { (happenAll _ _).2 with clock := instant } = _
  rw [h]

theorem passTo_eq (s : Session) (instant : Int) :
    ∃ dbs up, s.passTo instant = { s with
      databases := dbs, isUp := up, clock := instant,
      events := s.events.dropWhile fun e => decide (e.due ≤ instant) } := through_eq s instant

@[simp] theorem passTo_clock (s : Session) (instant : Int) : (s.passTo instant).clock = instant := rfl

/-! ## Alike sessions -/

/-- Two sessions whose servers are in the same state. -/
structure SameServer (s t : Session) : Prop where
  isUp : s.isUp = t.isUp
  database : ∀ n, s.database n = t.database n

/-- Two sessions with the same server, clock and events: they differ at most in what concerns the
program, such as its log and the failures arranged for it. -/
structure Alike (s t : Session) : Prop extends SameServer s t where
  clock : s.clock = t.clock
  events : s.events = t.events

theorem Alike.refl (s : Session) : s.Alike s := ⟨⟨rfl, fun _ => rfl⟩, rfl, rfl⟩

theorem Alike.symm (h : s.Alike t) : t.Alike s :=
  ⟨⟨h.isUp.symm, fun n => (h.database n).symm⟩, h.clock.symm, h.events.symm⟩

theorem Alike.trans {u : Session} (h₁ : s.Alike t) (h₂ : t.Alike u) : s.Alike u :=
  ⟨⟨h₁.isUp.trans h₂.isUp, fun n => (h₁.database n).trans (h₂.database n)⟩,
    h₁.clock.trans h₂.clock, h₁.events.trans h₂.events⟩

/-- Writing back what a database holds already changes nothing. -/
theorem withDatabase_alike {n : Int} {d : Store} (h : d = s.database n) :
    (s.withDatabase n d).Alike s := by
  refine ⟨⟨rfl, fun k => ?_⟩, rfl, rfl⟩
  rw [database_withDatabase]
  split
  · rename_i hk; rw [h, hk]
  · rfl

theorem Alike.withDatabase (h : s.Alike t) (n : Int) (d : Store) :
    (s.withDatabase n d).Alike (t.withDatabase n d) := by
  refine ⟨⟨h.isUp, fun k => ?_⟩, h.clock, h.events⟩
  rw [database_withDatabase, database_withDatabase, h.database]

end Session

open Session in
/-- Where the server and the clock are the same, the same happens, and the server stays the same. -/
theorem Happening.run_sameServer {s t : Session} (h : Happening) (hs : SameServer s t)
    (hc : s.clock = t.clock) :
    (h.run s).1 = (h.run t).1 ∧ SameServer (h.run s).2 (h.run t).2 := by
  cases h with
  | server up => exact ⟨rfl, rfl, hs.database⟩
  | request r =>
    unfold run
    dsimp only
    unfold serve
    cases r.wire? with
    | none => exact ⟨rfl, hs⟩
    | some words =>
      dsimp only [apply]
      rw [hc, hs.database]
      refine ⟨rfl, hs.isUp, fun n => ?_⟩
      rw [database_withDatabase, database_withDatabase, hs.database]

theorem Happening.run_alike {s t : Session} (h : Happening) (hs : s.Alike t) :
    (h.run s).1 = (h.run t).1 ∧ (h.run s).2.Alike (h.run t).2 := by
  obtain ⟨h₁, h₂⟩ := h.run_sameServer hs.toSameServer hs.clock
  obtain ⟨_, _, e⟩ := h.run_eq s
  obtain ⟨_, _, e'⟩ := h.run_eq t
  exact ⟨h₁, h₂, by rw [e, e']; exact hs.clock, by rw [e, e']; exact hs.events⟩

namespace Session

theorem happenAll_sameServer (es : List Event) (h : SameServer s t) :
    (s.happenAll es).1 = (t.happenAll es).1 ∧ SameServer (s.happenAll es).2 (t.happenAll es).2 := by
  induction es generalizing s t with
  | nil => exact ⟨rfl, h⟩
  | cons e es ih =>
    obtain ⟨h₁, h₂⟩ := e.happening.run_sameServer (s := { s with clock := e.due })
      (t := { t with clock := e.due }) ⟨h.isUp, h.database⟩ rfl
    obtain ⟨h₃, h₄⟩ := ih h₂
    refine ⟨?_, h₄⟩
    show (s.happen e).1 ++ ((s.happen e).2.happenAll es).1 = _
    rw [happen, h₁, h₃]; rfl

/-- The clock at which a wait starts does not matter, only the instant at which it ends. -/
theorem SameServer.through (h : SameServer s t) (he : s.events = t.events) (instant : Int) :
    (s.through instant).1 = (t.through instant).1 ∧
      (s.through instant).2.Alike (t.through instant).2 := by
  obtain ⟨h₁, h₂⟩ := happenAll_sameServer
    (s.events.takeWhile fun e => decide (e.due ≤ instant))
    (s := { s with events := s.events.dropWhile fun e => decide (e.due ≤ instant) })
    (t := { t with events := t.events.dropWhile fun e => decide (e.due ≤ instant) })
    ⟨h.isUp, h.database⟩
  obtain ⟨_, _, e₁⟩ := through_eq s instant
  obtain ⟨_, _, e₂⟩ := through_eq t instant
  refine ⟨?_, ⟨?_, ?_⟩, by rw [e₁, e₂], by rw [e₁, e₂, he]⟩
  · show (happenAll _ _).1 = _
    rw [h₁, he]; rfl
  · show (happenAll _ _).2.isUp = _
    rw [h₂.isUp, he]; rfl
  · intro n
    show (happenAll _ _).2.database n = _
    rw [h₂.database n, he]; rfl

theorem Alike.passTo (h : s.Alike t) (instant : Int) :
    (s.passTo instant).Alike (t.passTo instant) :=
  (h.toSameServer.through h.events instant).2

/-! ## Two waits are one -/

theorem takeWhile_due {a b : Int} (h : a ≤ b) (es : List Event) :
    es.takeWhile (fun e => decide (e.due ≤ b)) =
      es.takeWhile (fun e => decide (e.due ≤ a)) ++
        (es.dropWhile fun e => decide (e.due ≤ a)).takeWhile fun e => decide (e.due ≤ b) := by
  induction es with
  | nil => rfl
  | cons e es ih =>
    by_cases ha : e.due ≤ a
    · have hb : e.due ≤ b := Int.le_trans ha h
      simp only [List.takeWhile_cons, List.dropWhile_cons, ha, hb, decide_true, if_true, ih,
        List.cons_append]
    · simp only [List.takeWhile_cons, List.dropWhile_cons, ha, decide_false, Bool.false_eq_true,
        if_false, List.nil_append]

theorem dropWhile_due {a b : Int} (h : a ≤ b) (es : List Event) :
    (es.dropWhile fun e => decide (e.due ≤ a)).dropWhile (fun e => decide (e.due ≤ b)) =
      es.dropWhile fun e => decide (e.due ≤ b) := by
  induction es with
  | nil => rfl
  | cons e es ih =>
    by_cases ha : e.due ≤ a
    · have hb : e.due ≤ b := Int.le_trans ha h
      simp only [List.dropWhile_cons, ha, hb, decide_true, if_true, ih]
    · simp only [List.dropWhile_cons, ha, decide_false, Bool.false_eq_true, if_false]

theorem happenAll_append (s : Session) (es fs : List Event) :
    (s.happenAll (es ++ fs)).2 = ((s.happenAll es).2.happenAll fs).2 := by
  induction es generalizing s with
  | nil => rfl
  | cons e es ih => exact ih (s.happen e).2

/-- Passing to an instant by way of an earlier one is passing there at once. -/
theorem passTo_passTo {a b : Int} (h : a ≤ b) (s : Session) :
    ((s.passTo a).passTo b).Alike (s.passTo b) := by
  let early := s.events.takeWhile fun e => decide (e.due ≤ a)
  let rest := s.events.dropWhile fun e => decide (e.due ≤ a)
  let late := rest.takeWhile fun e => decide (e.due ≤ b)
  let left := rest.dropWhile fun e => decide (e.due ≤ b)
  have hrest : (s.passTo a).events = rest := by
    obtain ⟨_, _, e⟩ := passTo_eq s a
    rw [e]
  -- What is due by `a` happens in both waits with the same server, so the later events do, too.
  have hmid : SameServer { s.passTo a with events := left }
      (happenAll { s with events := left } early).2 := by
    have := (happenAll_sameServer early (s := { s with events := rest })
      (t := { s with events := left }) ⟨rfl, fun _ => rfl⟩).2
    exact ⟨this.isUp, this.database⟩
  obtain ⟨-, hend⟩ := happenAll_sameServer late hmid
  have hlong : (s.passTo b).SameServer (happenAll { s with events := left } (early ++ late)).2 := by
    have e₁ := takeWhile_due h s.events
    have e₂ : left = s.events.dropWhile fun e => decide (e.due ≤ b) := dropWhile_due h s.events
    show SameServer { (happenAll _ _).2 with clock := b } _
    rw [e₁, e₂]
    exact ⟨rfl, fun _ => rfl⟩
  rw [happenAll_append] at hlong
  have hshort : ((s.passTo a).passTo b).SameServer
      (happenAll { s.passTo a with events := left } late).2 := by
    show SameServer { (happenAll { s.passTo a with
      events := (s.passTo a).events.dropWhile fun e => decide (e.due ≤ b) }
        ((s.passTo a).events.takeWhile fun e => decide (e.due ≤ b))).2 with clock := b } _
    rw [hrest]
    exact ⟨rfl, fun _ => rfl⟩
  refine ⟨⟨?_, fun n => ?_⟩, rfl, ?_⟩
  · rw [hshort.isUp, hend.isUp, hlong.isUp]
  · rw [hshort.database, hend.database, hlong.database]
  · obtain ⟨_, _, e₁⟩ := passTo_eq (s.passTo a) b
    obtain ⟨_, _, e₂⟩ := passTo_eq s b
    rw [e₁, e₂, hrest]
    exact dropWhile_due h s.events

end Session

/-! ## Untouched keys -/

namespace Session

variable {n : Int} {k : Bytes}

theorem find?_serve {r : Request} (h : (n, k) ∉ (s.serve r).1) :
    ((s.serve r).2.database n).find? k = (s.database n).find? k := by
  unfold serve at h ⊢
  cases hw : r.wire? with
  | none => rfl
  | some words =>
    simp only [hw] at h
    dsimp only [apply] at h ⊢
    rw [database_withDatabase]
    split
    · rename_i hn
      rw [hn] at h ⊢
      exact (Request.Meaning.run_honest _).spared k fun hk => h (List.mem_map_of_mem hk)
    · rfl

theorem find?_run {h : Happening} (hk : (n, k) ∉ (h.run s).1) :
    ((h.run s).2.database n).find? k = (s.database n).find? k := by
  cases h with
  | request r => exact find?_serve hk
  | server up => rfl

theorem find?_happenAll {es : List Event} (h : (n, k) ∉ (s.happenAll es).1) :
    ((s.happenAll es).2.database n).find? k = (s.database n).find? k := by
  induction es generalizing s with
  | nil => rfl
  | cons e es ih =>
    obtain ⟨h₁, h₂⟩ := not_or.mp fun hk => h (List.mem_append.mpr hk)
    exact (ih h₂).trans (find?_run (s := { s with clock := e.due }) h₁)

/-- Time in which nothing touches a key leaves its entry alone. -/
theorem find?_through {instant : Int} (h : (n, k) ∉ (s.through instant).1) :
    ((s.through instant).2.database n).find? k = (s.database n).find? k :=
  find?_happenAll (s := { s with events := _ }) h

end Session

/-! ## Sparing a key -/

/-- A request that never touches a key, whatever the databases hold. -/
def Request.Spares (r : Request) (k : Bytes) : Prop :=
  ∀ words, r.wire? = some words → ∀ now d, k ∉ ((Request.meaning words).run now d).touched

/-- Something from outside that never touches a key. -/
def Happening.Spares (k : Bytes) : Happening → Prop
  | .request r => r.Spares k
  | .server _ => True

namespace Session

variable {k : Bytes}

theorem untouched_run {h : Happening} (hk : h.Spares k) (s : Session) (n : Int) :
    (n, k) ∉ (h.run s).1 := by
  cases h with
  | server up => exact List.not_mem_nil
  | request r =>
    show (n, k) ∉ (s.serve r).1
    unfold serve
    cases hw : r.wire? with
    | none => exact List.not_mem_nil
    | some words =>
      intro hmem
      obtain ⟨l, hl, heq⟩ := List.mem_map.mp hmem
      cases heq
      exact hk words hw _ _ hl

theorem untouched_happenAll {es : List Event} (h : ∀ e ∈ es, e.happening.Spares k) (s : Session)
    (n : Int) : (n, k) ∉ (s.happenAll es).1 := by
  induction es generalizing s with
  | nil => exact List.not_mem_nil
  | cons e es ih =>
    intro hmem
    obtain hmem | hmem := List.mem_append.mp hmem
    · exact untouched_run (h e List.mem_cons_self) _ n hmem
    · exact ih (fun e' he' => h e' (List.mem_cons_of_mem _ he')) _ hmem

/-- A later session in which nothing has touched a key since. -/
structure Spared (k : Bytes) (s t : Session) : Prop where
  clock : s.clock ≤ t.clock
  entry : ∀ n, (t.database n).find? k = (s.database n).find? k
  events : ∀ e ∈ t.events, e ∈ s.events

theorem Alike.spared (h : t.Alike s) (k : Bytes) : Spared k s t :=
  ⟨Int.le_of_eq h.clock.symm, fun n => by rw [h.database], fun _ he => h.events ▸ he⟩

theorem Spared.trans {u : Session} (h₁ : Spared k s t) (h₂ : Spared k t u) : Spared k s u :=
  ⟨Int.le_trans h₁.clock h₂.clock, fun n => (h₂.entry n).trans (h₁.entry n),
    fun e he => h₁.events e (h₂.events e he)⟩

theorem withDatabase_spared {n : Int} {d : Store} (h : d.find? k = (s.database n).find? k) :
    Spared k s (s.withDatabase n d) := by
  refine ⟨Int.le_refl _, fun l => ?_, fun _ he => he⟩
  rw [database_withDatabase]
  split
  · rename_i hl; rw [h, hl]
  · rfl

theorem run_spared {h : Happening} (hk : h.Spares k) (s : Session) : Spared k s (h.run s).2 := by
  obtain ⟨_, _, e⟩ := h.run_eq s
  refine ⟨by rw [e], fun n => find?_run (untouched_run hk s n), fun _ he => ?_⟩
  rw [e] at he
  exact he

theorem passTo_spared {s : Session} (h : ∀ e ∈ s.events, e.happening.Spares k) {instant : Int}
    (hi : s.clock ≤ instant) : Spared k s (s.passTo instant) := by
  obtain ⟨_, _, e⟩ := passTo_eq s instant
  refine ⟨hi, fun n => find?_through ?_, fun e' he => ?_⟩
  · exact untouched_happenAll (fun e he => h e (List.takeWhile_subset _ he)) _ n
  · rw [e] at he
    exact (List.dropWhile_suffix _).subset he

end Session
end Leasehold

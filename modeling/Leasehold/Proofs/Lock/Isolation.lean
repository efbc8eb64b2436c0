import Leasehold.Proofs.Lock.Waiting
import Leasehold.Proofs.Session.Confined
import Leasehold.Proofs.Text.Utf8

/-!
# Locks under different keys do not interfere

What the callers of some locks can see does not depend on what others do with other locks.

- **Operations** (`LockCall.confined`): a call to a manager is confined to the key of its lock.
- **Silenced runs** (`LockTurn.silenced`): the calls of others are replaced by as much time as they
  took.
- **One run and its silenced twin** (`LockTurn.run_silenced`) give the same responses to the calls that
  remain, and end with the same entries of their keys.
- **Namespaces** (`LockTurn.namespaces_isolated`): keys are a manager's prefix with the name of a lock
  behind it, so managers never meet when none of their prefixes begins with the other's.
-/

namespace Leasehold

open Session

/-! ## Operations -/

namespace LockManager

open Leasehold.Action Leasehold.Effect

variable (m : LockManager) (key : String)

/-- The bytes of the key under which the store has a lock. -/
def rawKey : Bytes := Utf8.encode (m.keyPrefix ++ key)

theorem tokenOr_confined (k : Bytes) (token : Option String) : Confined k (tokenOr token) := by
  cases token with
  | none =>
    exact .of_still (fun _ h => h) (fun s t h => congrArg (fun i => Except.ok (toString i)) h)
      fun keys s => .refl keys s
  | some token => exact .pure token

theorem take_confined (token : String) (ttl : Period) :
    Confined (m.rawKey key) (m.take key token ttl) :=
  .bind (.surfacing (.ask ((onKey_setIfAbsent _ _).sending _) _ _ _) _ _) fun _ =>
    .bind (.report _ _) fun _ => .pure _

theorem acquire_confined (token : Option String) (ttl : Value) :
    Confined (m.rawKey key) (m.acquire key token ttl) :=
  .bind (.ofExcept _) fun p => .bind (tokenOr_confined _ token) fun t => m.take_confined key t p

theorem guarded_confined (operation token : String) (script : Script) :
    Confined (m.rawKey key) (m.guarded operation key token script) :=
  .bind (.surfacing (.ask (onKey_send _ script) _ _ _) _ _) fun _ => .pure _

theorem release_confined (token : String) : Confined (m.rawKey key) (m.release key token) :=
  .bind (m.guarded_confined key _ token .delete) fun _ => .bind (.report _ _) fun _ => .pure _

theorem extend_confined (token : String) (ttl : Value) :
    Confined (m.rawKey key) (m.extend key token ttl) :=
  .bind (.ofExcept _) fun p => .bind (m.guarded_confined key _ token (.expire p.val)) fun _ =>
    .bind (.report _ _) fun _ => .pure _

theorem isLocked_confined : Confined (m.rawKey key) (m.isLocked key) := by
  refine .bind (.surfacing (.ask onKey_count _ _ _) _ _) fun answer => ?_
  split
  · exact .pure _
  · exact .pure _

theorem owner?_confined : Confined (m.rawKey key) (m.owner? key) :=
  .bind (.surfacing (.ask onKey_get _ _ _) _ _) fun _ => .ofExcept _

theorem poll_confined (token : String) (ttl : Period) (pace : Except Failure Period)
    (timeout tried remaining : Nat) :
    Confined (m.rawKey key) (m.poll key token ttl pace timeout tried remaining) := by
  induction remaining using Nat.strongRecOn generalizing tried with
  | ind remaining ih =>
    rw [poll.eq_def]
    refine .bind (m.take_confined key token ttl) fun taken => ?_
    cases taken with
    | true => exact .pure true
    | false =>
      cases remaining with
      | zero => exact .bind (.report _ _) fun _ => .pure _
      | succ left =>
        refine .bind (.ofExcept pace) fun interval => ?_
        have hpos := interval.property
        exact .bind (.sleep _) fun _ => ih _ (by omega) _

theorem wait_confined (token : Option String) (ttl interval timeout : Value) :
    Confined (m.rawKey key) (m.wait key token ttl interval timeout) :=
  .bind (.ofExcept _) fun p => .bind (.ofExcept _) fun _ => .bind (.ofExcept _) fun t =>
    .bind (tokenOr_confined _ token) fun token => .bind (.ofExcept _) fun _ =>
      m.poll_confined key token p _ t 0 t

end LockManager

/-- What a caller asks a manager to do with a lock. -/
inductive LockOperation where
  | acquire (token : Option String) (ttl : Value)
  | release (token : String)
  | extend (token : String) (ttl : Value)
  | isLocked
  | owner
  | wait (token : Option String) (ttl interval timeout : Value)

/-- A call to a manager about a lock. -/
structure LockCall where
  manager : LockManager
  key : String
  operation : LockOperation

/-- What a call returns. -/
inductive LockResult where
  | verdict (b : Bool)
  | owner (token : Option String)
deriving DecidableEq, Repr

namespace LockCall

/-- Does what a call asks for. -/
def action (c : LockCall) : Action LockResult :=
  match c.operation with
  | .acquire token ttl => do return .verdict (← c.manager.acquire c.key token ttl)
  | .release token => do return .verdict (← c.manager.release c.key token)
  | .extend token ttl => do return .verdict (← c.manager.extend c.key token ttl)
  | .isLocked => do return .verdict (← c.manager.isLocked c.key)
  | .owner => do return .owner (← c.manager.owner? c.key)
  | .wait token ttl interval timeout => do
    return .verdict (← c.manager.wait c.key token ttl interval timeout)

/-- The bytes of the key that a call is about. -/
def rawKey (c : LockCall) : Bytes := c.manager.rawKey c.key

theorem confined (c : LockCall) : c.action.Confined c.rawKey := by
  obtain ⟨m, key, operation⟩ := c
  cases operation with
  | acquire token ttl => exact .bind (m.acquire_confined key token ttl) fun _ => .pure _
  | release token => exact .bind (m.release_confined key token) fun _ => .pure _
  | extend token ttl => exact .bind (m.extend_confined key token ttl) fun _ => .pure _
  | isLocked => exact .bind (m.isLocked_confined key) fun _ => .pure _
  | owner => exact .bind (m.owner?_confined key) fun _ => .pure _
  | wait token ttl interval timeout =>
    exact .bind (m.wait_confined key token ttl interval timeout) fun _ => .pure _

end LockCall

/-! ## Runs -/

/-- A turn of a run: somebody makes a call, or time passes. -/
inductive LockTurn where
  | call (c : LockCall)
  | pass (ms : Nat)

/-- What a call was answered, with a result or a failure, and when. -/
structure Response where
  call : LockCall
  outcome : Except Failure LockResult
  instant : Int

namespace LockTurn

/-- Takes turns one after the other; the responses, and the session after the last. -/
def run : List LockTurn → Session → List Response × Session
  | [], s => ([], s)
  | .call c :: rest, s =>
    let (outcome, s') := c.action.perform s
    let (responses, last) := run rest s'
    (⟨c, outcome, s'.clock⟩ :: responses, last)
  | .pass ms :: rest, s => run rest (s.pass ms)

/-- The turns in which only some callers still make their calls, and all others let pass the time that
their calls would take. -/
def silenced (mine : LockCall → Bool) : List LockTurn → Session → List LockTurn
  | [], _ => []
  | .call c :: rest, s =>
    let s' := (c.action.perform s).2
    (if mine c then .call c else .pass (s'.clock - s.clock).toNat) :: silenced mine rest s'
  | .pass ms :: rest, s => .pass ms :: silenced mine rest (s.pass ms)

/-- Some callers cannot tell a run from its silenced twin: they get the same responses at the same
instants, and their keys have the same entries in the end. -/
structure Unaffected (mine : LockCall → Bool) (keys : Set Bytes) (turns : List LockTurn)
    (s : Session) : Prop where
  responses : (run (silenced mine turns s) s).1 = (run turns s).1.filter (mine ·.call)
  clock : (run (silenced mine turns s) s).2.clock = (run turns s).2.clock
  entries : ∀ n, ∀ k ∈ keys, ((run (silenced mine turns s) s).2.database n).find? k =
    ((run turns s).2.database n).find? k

variable {mine : LockCall → Bool} {keys : Set Bytes}

/-- A run of calls of which some are about certain keys and all others are not, and its silenced twin
in a session that agrees on these keys. -/
theorem run_silenced (turns : List LockTurn)
    (own : ∀ c, .call c ∈ turns → (mine c = true ↔ c.rawKey ∈ keys)) {s t : Session} (hs : s.Calm)
    (ht : t.Calm) (h : AgreeOn keys t s) :
    (run (silenced mine turns s) t).1 = (run turns s).1.filter (mine ·.call) ∧
      AgreeOn keys (run (silenced mine turns s) t).2 (run turns s).2 := by
  induction turns generalizing s t with
  | nil => exact ⟨rfl, h⟩
  | cons turn rest ih =>
    replace ih := @ih fun c hc => own c (List.mem_cons_of_mem turn hc)
    cases turn with
    | pass ms =>
      refine ih (s := s.pass ms) (t := t.pass ms) ?_ ?_ ?_
      all_goals simp only [Session.pass, hs.passTo_eq, ht.passTo_eq]
      · exact hs.atClock _
      · exact ht.atClock _
      · rw [h.clock]
        exact h.atClock _
    | call c =>
      have hown := own c List.mem_cons_self
      have hcalm := c.confined.calm s hs
      cases hmine : mine c with
      | true =>
        -- The call is made in both, and goes the same way.
        obtain ⟨hsame, hagree⟩ := c.confined.alike keys t s (hown.mp hmine) ht hs h
        obtain ⟨hrest, hend⟩ := ih hcalm (c.confined.calm t ht) hagree
        simp only [silenced, run, hmine, if_true]
        refine ⟨?_, hend⟩
        rw [List.filter_cons_of_pos (by simpa using hmine), hrest, hsame, hagree.clock]
      | false =>
        -- The call is about another key, so here it only takes its time.
        have hkey : c.rawKey ∉ keys := fun hmem => by
          rw [hown.mpr hmem] at hmine
          cases hmine
        obtain ⟨hle, helse⟩ := c.confined.elsewhere keys s hkey hs
        have hpass : t.pass ((c.action.perform s).2.clock - s.clock).toNat =
            t.atClock (c.action.perform s).2.clock := by
          rw [Session.pass, ht.passTo_eq, h.clock]
          congr 1
          omega
        obtain ⟨hrest, hend⟩ := ih hcalm (ht.atClock (c.action.perform s).2.clock)
          ((h.atClock _).trans helse.symm)
        simp only [silenced, run, hmine, Bool.false_eq_true, if_false, hpass]
        refine ⟨?_, hend⟩
        rw [List.filter_cons_of_neg (by simpa using hmine), hrest]

theorem unaffected (turns : List LockTurn)
    (own : ∀ c, .call c ∈ turns → (mine c = true ↔ c.rawKey ∈ keys)) {s : Session} (hs : s.Calm) :
    Unaffected mine keys turns s := by
  obtain ⟨hresponses, hagree⟩ := run_silenced turns own hs hs (.refl keys s)
  exact ⟨hresponses, hagree.clock, hagree.entry⟩

/-! ## Namespaces -/

/-- The keys that begin with a text. -/
def under (start : String) : Set Bytes := fun k => Utf8.encode start <+: k

theorem rawKey_under (c : LockCall) : c.rawKey ∈ under c.manager.keyPrefix := by
  refine ⟨Utf8.encode c.key, ?_⟩
  rw [← Utf8.encode_append]
  rfl

/-- A key begins with one of two texts at most, when neither of these begins with the other. -/
theorem not_under {P Q : String} (hPQ : ¬ P.toList <+: Q.toList) (hQP : ¬ Q.toList <+: P.toList)
    {k : Bytes} (h : k ∈ under Q) : k ∉ under P := by
  intro h'
  rcases List.prefix_or_prefix_of_prefix h' h with hp | hq
  · exact hPQ (Utf8.encode_prefix_iff.mp hp)
  · exact hQP (Utf8.encode_prefix_iff.mp hq)

/-- **Namespaces do not interfere.** In a session in which nothing else goes on, take any calls of
managers with two prefixes, neither of which begins with the other: those with one prefix get the same
responses at the same instants when those with the other only let the time pass that their calls would
take, and in the end the same is stored under their prefix. So it is for calls about some of the locks
of one prefix and those about its other locks. -/
theorem namespaces_isolated (s : Session) (calm : s.Calm) :
    (∀ (P Q : String) (turns : List LockTurn), ¬ P.toList <+: Q.toList → ¬ Q.toList <+: P.toList →
      (∀ c, .call c ∈ turns → c.manager.keyPrefix = P ∨ c.manager.keyPrefix = Q) →
      Unaffected (fun c => c.manager.keyPrefix == P) (under P) turns s) ∧
    ∀ (P : String) (locks : String → Bool) (turns : List LockTurn),
      (∀ c, .call c ∈ turns → c.manager.keyPrefix = P) →
      Unaffected (fun c => locks c.key) {k | ∃ key, locks key = true ∧ k = Utf8.encode (P ++ key)}
        turns s := by
  refine ⟨fun P Q turns hPQ hQP hturns => unaffected turns (fun c hc => ?_) calm,
    fun P locks turns hturns => unaffected turns (fun c hc => ?_) calm⟩
  · rw [beq_iff_eq]
    refine ⟨fun h => h ▸ rawKey_under c, fun hmem => ?_⟩
    rcases hturns c hc with h | h
    · exact h
    · exact absurd hmem (not_under hPQ hQP (h ▸ rawKey_under c))
  · have hkey : c.rawKey = Utf8.encode (P ++ c.key) := by rw [← hturns c hc]; rfl
    constructor
    · exact fun h => ⟨c.key, h, hkey⟩
    · rintro ⟨key, h, heq⟩
      rw [hkey, Utf8.encode_inj, String.append_right_inj] at heq
      exact heq ▸ h

/-- Somebody holds a lock that a manager with another prefix waits for under the same name. -/
def sameName : List LockTurn :=
  [.call ⟨{ keyPrefix := "a:" }, "x", .acquire (some "t") (.int 100)⟩,
    .call ⟨{ keyPrefix := "b:" }, "x", .wait (some "u") (.int 50) (.int 40) (.int 60)⟩,
    .call ⟨{ keyPrefix := "b:" }, "x", .wait (some "v") (.int 50) (.int 40) (.int 60)⟩,
    .call ⟨{ keyPrefix := "a:" }, "x", .owner⟩]

theorem sameName_isolated :
    let s : Session := .start false
    s.Calm ∧ ¬ "a:".toList <+: "b:".toList ∧
    (run sameName s).1.length = 4 ∧
    (run (silenced (fun c => c.manager.keyPrefix == "a:") sameName s) s).1 =
      (run sameName s).1.filter (fun r => r.call.manager.keyPrefix == "a:") := by
  intro s
  have calm : s.Calm := ⟨rfl, fun _ _ h => absurd h List.not_mem_nil⟩
  have hab : ¬ "a:".toList <+: "b:".toList := by decide +kernel
  have hba : ¬ "b:".toList <+: "a:".toList := by decide +kernel
  have hturns : ∀ c, .call c ∈ sameName → c.manager.keyPrefix = "a:" ∨ c.manager.keyPrefix = "b:" := by
    intro c hc
    simp only [sameName, List.mem_cons, List.not_mem_nil, or_false, LockTurn.call.injEq] at hc
    rcases hc with rfl | rfl | rfl | rfl
    · exact .inl rfl
    · exact .inr rfl
    · exact .inr rfl
    · exact .inl rfl
  exact ⟨calm, hab, by decide +kernel,
    ((namespaces_isolated s calm).1 "a:" "b:" sameName hab hba hturns).responses⟩

end LockTurn
end Leasehold

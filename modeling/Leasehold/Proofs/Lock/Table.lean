import Leasehold.Proofs.Lock.Waiting
import Leasehold.Proofs.Text.Utf8
import Leasehold.Lock.Handle

/-!
# A table of locks

What callers can know of the locks from the answers they got (`Observation`): a table that says for
each key who holds it until when (`LockTable.after`).

- **Answers that agree** (`Observation.Agrees`): what a table says an operation must be answered.
- **Tracking** (`LockTable.Tracks`): the store holds exactly what the table says about some keys, now
  and for as long as nobody touches them.
- **One operation** (`LockManager.take_sound`, `release_sound`, `extend_sound`, `isLocked_sound`,
  `owner?_sound`, `wait_sound`): its answers agree with a table that tracks the store, and the table
  goes on tracking it.
-/

namespace Leasehold

open Session

/-! ## Tables -/

/-- Who holds a lock, and the last instant at which it is held. -/
structure Holding where
  token : String
  deadline : Int
deriving DecidableEq, Repr

/-- The entry of the store for a lock that is held. -/
def Holding.entry (h : Holding) : Entry := ⟨.string (Utf8.encode h.token), some h.deadline⟩

/-- Who holds which lock, by the keys of the store. -/
abbrev LockTable := String → Option Holding

namespace LockTable

/-- Nobody holds anything. -/
def empty : LockTable := fun _ => none

/-- Who holds a lock at an instant: past its deadline, nobody does. -/
def at? (T : LockTable) (now : Int) (key : String) : Option Holding :=
  (T key).filter fun h => decide (now ≤ h.deadline)

/-- Replaces what is said about one lock. -/
def set (T : LockTable) (key : String) (h : Option Holding) : LockTable :=
  fun k => if k = key then h else T k

end LockTable

/-! ## Observations -/

/-- What an operation on a lock was answered, with what the caller gave. -/
inductive Answer where
  | acquired (token : String) (ttl : Int) (b : Bool)
  | released (token : String) (b : Bool)
  | extended (token : String) (ttl : Int) (b : Bool)
  | locked (b : Bool)
  | owned (token : Option String)
deriving DecidableEq, Repr

/-- An answer about the lock under a key of the store, with its instant. -/
structure Observation where
  instant : Int
  key : String
  answer : Answer
deriving DecidableEq, Repr

namespace Observation

/-- The answer is the one that a table gives. -/
def Agrees (T : LockTable) (o : Observation) : Prop :=
  match o.answer with
  | .acquired _ _ b => b = true ↔ T.at? o.instant o.key = none
  | .released token b => b = true ↔ (T.at? o.instant o.key).map (·.token) = some token
  | .extended token _ b => b = true ↔ (T.at? o.instant o.key).map (·.token) = some token
  | .locked b => b = true ↔ T.at? o.instant o.key ≠ none
  | .owned token => token = (T.at? o.instant o.key).map (·.token)

/-- The table after an answer: only taking, prolonging and giving back with success change it. -/
def enter (T : LockTable) (o : Observation) : LockTable :=
  match o.answer with
  | .acquired token ttl true => T.set o.key (some ⟨token, o.instant + ttl⟩)
  | .extended _ ttl true =>
    T.set o.key ((T o.key).map fun h => { h with deadline := o.instant + ttl })
  | .released _ true => T.set o.key none
  | _ => T

end Observation

namespace LockTable

/-- The table after some answers. -/
def after (T : LockTable) (os : List Observation) : LockTable := os.foldl Observation.enter T

/-- Each answer about one of the keys agrees with the table after those before it. -/
def Agreed (keys : Set String) : LockTable → List Observation → Prop
  | _, [] => True
  | T, o :: rest => (o.key ∈ keys → o.Agrees T) ∧ Agreed keys (o.enter T) rest

variable {keys : Set String} {T : LockTable}

theorem agreed_append {os ps : List Observation} (h : Agreed keys T os)
    (h' : Agreed keys (T.after os) ps) : Agreed keys T (os ++ ps) := by
  induction os generalizing T with
  | nil => exact h'
  | cons o os ih => exact ⟨h.1, ih h.2 h'⟩

theorem Agreed.mid {before rest : List Observation} {o : Observation}
    (h : Agreed keys T (before ++ o :: rest)) (ho : o.key ∈ keys) : o.Agrees (T.after before) := by
  induction before generalizing T with
  | nil => exact h.1 ho
  | cons p before ih => exact ih h.2

/-! ## Tracking -/

/-- A database holds exactly the locks that a table says, among some keys of the store, and will as
long as nobody touches them; and no event will. -/
structure Tracks (n : Int) (keys : Set String) (T : LockTable) (s : Session) : Prop where
  entries : ∀ k ∈ keys, ∀ now, s.clock ≤ now →
    (s.database n).live now (Utf8.encode k) = (T.at? now k).map Holding.entry
  events : ∀ e ∈ s.events, ∀ k ∈ keys, e.happening.Spares (Utf8.encode k)

variable {n : Int} {s t : Session}

theorem Tracks.spared (h : Tracks n keys T s) (hst : ∀ k ∈ keys, Spared (Utf8.encode k) s t) :
    Tracks n keys T t := by
  refine ⟨fun k hk now hnow => ?_, fun e he k hk => h.events e ((hst k hk).events e he) k hk⟩
  rw [← h.entries k hk now (Int.le_trans (hst k hk).clock hnow)]
  unfold Store.live
  rw [(hst k hk).entry]

theorem Tracks.alike (h : Tracks n keys T s) (ht : t.Alike s) : Tracks n keys T t :=
  h.spared fun _ _ => ht.spared _

theorem Tracks.passTo (h : Tracks n keys T s) {instant : Int} (hi : s.clock ≤ instant) :
    Tracks n keys T (s.passTo instant) :=
  h.spared fun k hk => passTo_spared (fun e he => h.events e he k hk) hi

theorem filter_entry (h : Holding) (now : Int) :
    (some h.entry).filter (·.isLive now) =
      ((some h).filter fun h => decide (now ≤ h.deadline)).map Holding.entry := by
  have hlive : h.entry.isLive now = decide (now ≤ h.deadline) := rfl
  rw [Option.filter_some, Option.filter_some, hlive]
  split <;> rfl

/-- Somebody else's lock is left alone by a change to one lock. -/
theorem Tracks.set (h : Tracks n keys T s) {key : String} {x : Option Holding} {d : Store}
    (hsame : ∀ now, s.clock ≤ now → key ∈ keys → d.live now (Utf8.encode key) =
      (x.filter fun h => decide (now ≤ h.deadline)).map Holding.entry)
    (hother : ∀ k now, k ≠ Utf8.encode key → d.live now k = (s.database n).live now k) :
    Tracks n keys (T.set key x) (s.withDatabase n d) := by
  refine ⟨fun k hk now hnow => ?_, h.events⟩
  rw [database_withDatabase_self]
  unfold LockTable.at? LockTable.set
  by_cases hkey : k = key
  · subst hkey
    rw [if_pos rfl]
    exact hsame now hnow hk
  · rw [if_neg hkey, hother _ _ fun e => hkey (Utf8.encode_inj.mp e)]
    exact h.entries k hk now hnow

/-- Answers agree with a table that tracks the store, and it goes on tracking. -/
structure Sound (n : Int) (keys : Set String) (T : LockTable) (os : List Observation)
    (s : Session) : Prop where
  agreed : Agreed keys T os
  tracks : Tracks n keys (T.after os) s

theorem Sound.append {os ps : List Observation} (h : Sound n keys T os s)
    (h' : Sound n keys (T.after os) ps t) : Sound n keys T (os ++ ps) t := by
  refine ⟨agreed_append h.agreed h'.agreed, ?_⟩
  unfold after
  rw [List.foldl_append]
  exact h'.tracks

theorem Tracks.sound_nil (h : Tracks n keys T s) : Sound n keys T [] s := ⟨trivial, h⟩

end LockTable

/-- The milliseconds of a parameter; one that is out of order has none, and is never used. -/
def milliseconds : Except Failure Period → Int
  | .ok p => p.val
  | .error _ => 0

/-- What an operation on a lock was answered, if it was. -/
def Observation.told {α : Type} (instant : Int) (key : String) (answer : α → Answer) :
    Except Failure α → List Observation
  | .ok a => [⟨instant, key, answer a⟩]
  | .error _ => []

/-! ## One operation -/

namespace LockManager

open LockTable Observation

variable {m : LockManager} {n : Int} {keys : Set String} {T : LockTable} {s : Session}
  (h : Tracks n keys T s) (hn : m.client.database = n) (key token : String)

include h hn

theorem entry_tracked (hk : m.keyPrefix ++ key ∈ keys) :
    m.entry key s = (T.at? s.clock (m.keyPrefix ++ key)).map Holding.entry := by
  unfold entry
  rw [hn]
  exact h.entries _ hk _ (Int.le_refl _)

theorem entry_none_iff (hk : m.keyPrefix ++ key ∈ keys) :
    m.entry key s = none ↔ T.at? s.clock (m.keyPrefix ++ key) = none := by
  rw [entry_tracked h hn key hk, Option.map_eq_none_iff]

theorem holds_iff (hk : m.keyPrefix ++ key ∈ keys) :
    m.Holds key token s ↔ (T.at? s.clock (m.keyPrefix ++ key)).map (·.token) = some token := by
  unfold Holds
  rw [entry_tracked h hn key hk]
  cases T.at? s.clock (m.keyPrefix ++ key) with
  | none => simp
  | some x =>
    simp only [Option.map_some, Option.some.injEq, Holding.entry, Entry.mk.injEq, Datum.string.injEq]
    exact ⟨fun ⟨_, e, _⟩ => Utf8.encode_inj.mp e, fun e => ⟨_, e ▸ rfl, rfl⟩⟩

/-- A lock that was taken or prolonged has a new line in the table. -/
theorem tracks_withEntry (ttl : Period) {x : Option Holding}
    (hx : m.keyPrefix ++ key ∈ keys → x = some ⟨token, s.clock + ttl.val⟩) :
    Tracks n keys (T.set (m.keyPrefix ++ key) x) (m.withEntry key s (lease token s ttl)) := by
  unfold withEntry
  rw [hn]
  refine h.set (fun now _ hk => ?_) fun k now hk => ?_
  · rw [Store.live_put, if_pos rfl, hx hk]
    exact filter_entry ⟨token, s.clock + ttl.val⟩ now
  · rw [Store.live_put, if_neg hk]

theorem tracks_withoutEntry :
    Tracks n keys (T.set (m.keyPrefix ++ key) none) (m.withoutEntry key s) := by
  unfold withoutEntry
  rw [hn]
  refine h.set (fun now _ _ => ?_) fun k now hk => ?_
  · rw [Store.live_erase, if_pos rfl]; rfl
  · rw [Store.live_erase, if_neg hk]

theorem take_sound (ttl : Period) :
    Sound n keys T (told s.clock (m.keyPrefix ++ key) (.acquired token ttl.val)
      ((m.take key token ttl).perform s).1) ((m.take key token ttl).perform s).2 := by
  have hspec := m.take_spec key token s ttl
  generalize (m.take key token ttl).perform s = done at hspec ⊢
  cases hspec with
  | failed _ alike => exact (h.alike alike).sound_nil
  | busy present alike =>
    refine ⟨⟨fun hk => ?_, trivial⟩, h.alike alike⟩
    rw [Ne, entry_none_iff h hn key hk] at present
    exact iff_of_false Bool.false_ne_true present
  | taken absent alike =>
    refine ⟨⟨fun hk => ?_, trivial⟩, (tracks_withEntry h hn key token ttl fun _ => rfl).alike alike⟩
    exact iff_of_true rfl ((entry_none_iff h hn key hk).mp absent)

theorem acquire_sound (token : Option String) (ttl : Value) :
    Sound n keys T (told s.clock (m.keyPrefix ++ key)
      (.acquired (tokenAt token s) (milliseconds (m.lifetime ttl)))
      ((m.acquire key token ttl).perform s).1) ((m.acquire key token ttl).perform s).2 := by
  rw [acquire_eq]
  cases m.lifetime ttl with
  | error f => exact h.sound_nil
  | ok p => exact take_sound h hn key (tokenAt token s) p

theorem release_sound :
    Sound n keys T (told s.clock (m.keyPrefix ++ key) (.released token)
      ((m.release key token).perform s).1) ((m.release key token).perform s).2 := by
  have hspec := m.release_spec key token s
  generalize (m.release key token).perform s = done at hspec ⊢
  cases hspec with
  | failed _ alike => exact (h.alike alike).sound_nil
  | foreign other alike =>
    refine ⟨⟨fun hk => ?_, trivial⟩, h.alike alike⟩
    exact iff_of_false Bool.false_ne_true fun e => other ((holds_iff h hn key token hk).mpr e)
  | done held alike =>
    refine ⟨⟨fun hk => ?_, trivial⟩, (tracks_withoutEntry h hn key).alike alike⟩
    exact iff_of_true rfl ((holds_iff h hn key token hk).mp held)

/-- A lock that a token holds is in the table, whatever its deadline there. -/
theorem map_deadline_of_holds (hk : m.keyPrefix ++ key ∈ keys) (held : m.Holds key token s) (t : Int) :
    ((T (m.keyPrefix ++ key)).map fun h => { h with deadline := t }) = some ⟨token, t⟩ := by
  have hat := (holds_iff h hn key token hk).mp held
  unfold LockTable.at? at hat
  cases hT : T (m.keyPrefix ++ key) with
  | none => rw [hT] at hat; cases hat
  | some x =>
    rw [hT, Option.filter_some] at hat
    split at hat
    · cases hat; rfl
    · cases hat

theorem extend_sound (ttl : Value) :
    Sound n keys T (told s.clock (m.keyPrefix ++ key)
      (.extended token (milliseconds (Parameter.period "additional_ttl_ms" ttl)))
      ((m.extend key token ttl).perform s).1) ((m.extend key token ttl).perform s).2 := by
  cases hp : Parameter.period "additional_ttl_ms" ttl with
  | error f =>
    rw [extend_refused _ _ _ _ hp]
    exact h.sound_nil
  | ok p =>
  have hspec := m.extend_spec key token s hp
  generalize (m.extend key token ttl).perform s = done at hspec ⊢
  cases hspec with
  | failed _ alike => exact (h.alike alike).sound_nil
  | foreign other alike =>
    refine ⟨⟨fun hk => ?_, trivial⟩, h.alike alike⟩
    exact iff_of_false Bool.false_ne_true fun e => other ((holds_iff h hn key token hk).mpr e)
  | done held alike =>
    refine ⟨⟨fun hk => ?_, trivial⟩, (tracks_withEntry h hn key token p fun hk => ?_).alike alike⟩
    · exact iff_of_true rfl ((holds_iff h hn key token hk).mp held)
    · exact map_deadline_of_holds h hn key token hk held _

theorem isLocked_sound :
    Sound n keys T (told s.clock (m.keyPrefix ++ key) .locked ((m.isLocked key).perform s).1)
      ((m.isLocked key).perform s).2 := by
  have hspec := m.isLocked_spec key s
  generalize (m.isLocked key).perform s = done at hspec ⊢
  cases hspec with
  | failed _ alike => exact (h.alike alike).sound_nil
  | answered answer alike =>
    refine ⟨⟨fun hk => ?_, trivial⟩, h.alike alike⟩
    rw [Ne, entry_none_iff h hn key hk] at answer
    exact answer

theorem owner?_sound :
    Sound n keys T (told s.clock (m.keyPrefix ++ key) .owned ((m.owner? key).perform s).1)
      ((m.owner? key).perform s).2 := by
  have hspec := m.owner?_spec key s
  generalize (m.owner? key).perform s = done at hspec ⊢
  cases hspec with
  | failed _ alike => exact (h.alike alike).sound_nil
  | answered answer alike =>
    refine ⟨⟨fun hk => ?_, trivial⟩, h.alike alike⟩
    rw [entry_tracked h hn key hk] at answer
    show _ = _
    cases hT : T.at? s.clock (m.keyPrefix ++ key) with
    | none =>
      rw [hT] at answer
      obtain ⟨-, rfl⟩ | ⟨_, _, _, e, -⟩ := answer
      · rfl
      · cases e
    | some x =>
      rw [hT] at answer
      obtain ⟨e, -⟩ | ⟨b, t, token, e, hd, rfl⟩ := answer
      · cases e
      · cases e
        rw [Utf8.decode_encode] at hd
        cases hd
        rfl

/-- What the tries of a wait were answered. -/
def triesTold (m : LockManager) (key token : String) (ttl : Period) (tries : List Session) :
    List Observation :=
  tries.flatMap fun a =>
    told a.clock (m.keyPrefix ++ key) (.acquired token ttl.val) ((m.take key token ttl).perform a).1

theorem tryAt_sound (ttl : Period) {instants : List Int}
    (hsorted : (s.clock :: instants).Pairwise (· ≤ ·)) :
    let r := m.tryAt key token ttl instants s
    Sound n keys T (m.triesTold key token ttl r.tries) r.session := by
  have hone {s : Session} {T : LockTable} (h : Tracks n keys T s) :
      Sound n keys T (m.triesTold key token ttl [s]) ((m.take key token ttl).perform s).2 := by
    unfold triesTold
    rw [List.flatMap_singleton]
    exact take_sound h hn key token ttl
  induction instants generalizing s T with
  | nil => exact hone h
  | cons instant later ih =>
    obtain ⟨hfirst, hrest⟩ := List.pairwise_cons.mp hsorted
    have htake := take_sound h hn key token ttl
    have hspec := m.take_spec key token s ttl
    replace hone := hone h
    unfold tryAt
    rcases hdone : (m.take key token ttl).perform s with ⟨f | _ | _, s'⟩
    · rw [hdone] at hone
      exact hone
    · rw [hdone] at htake hspec
      cases hspec with
      | busy _ alike =>
        have hclock : s'.clock ≤ instant := by
          rw [alike.clock]; exact hfirst instant List.mem_cons_self
        have hnext := ih (htake.tracks.passTo hclock) (by rwa [passTo_clock])
        dsimp only
        unfold triesTold
        rw [List.flatMap_cons, hdone]
        exact htake.append hnext
    · rw [hdone] at hone
      exact hone

/-- What the tries of a wait were answered, the last of them by the answer of the wait itself, if it has
one. A wait whose parameters are out of order makes no tries. -/
def waitTold (m : LockManager) (key : String) (token : Option String) (ttl interval timeout : Value)
    (s : Session) : List Observation :=
  match m.waitPlan .seconds ttl interval timeout with
  | .ok (p, pace, t) =>
    let tries := (m.tryAt key (tokenAt token s) p (paceInstants s.clock pace t) s).tries
    match (m.wait key token ttl interval timeout).perform s with
    | (.ok b, s') =>
      m.triesTold key (tokenAt token s) p tries.dropLast ++
        [⟨s'.clock, m.keyPrefix ++ key, .acquired (tokenAt token s) p.val b⟩]
    | (.error _, _) => m.triesTold key (tokenAt token s) p tries
  | .error _ => []

omit h hn in
/-- The answer of the last try is the one of the wait. -/
theorem triesTold_last (ttl : Period) {pace : Except Failure Period} {timeout : Nat} {instants : List Int}
    {b : Bool} {s' : Session}
    (hdone : m.stopped key pace timeout 0 timeout (m.tryAt key token ttl instants s) = (.ok b, s')) :
    let tries := (m.tryAt key token ttl instants s).tries
    m.triesTold key token ttl tries.dropLast ++
        [⟨s'.clock, m.keyPrefix ++ key, .acquired token ttl.val b⟩] =
      m.triesTold key token ttl tries := by
  obtain ⟨before, a, htries, htake⟩ := @tryAt_last m key token ttl instants s
  have halike := m.stopped_alike key pace timeout 0 timeout (m.tryAt key token ttl instants s)
  have hout : (m.tryAt key token ttl instants s).outcome = .ok b := by
    obtain h | ⟨f, -, -, h⟩ := m.stopped_cases key pace timeout 0 timeout
      (m.tryAt key token ttl instants s)
    · rw [← (m.ended_eq key timeout 0 _).1, ← h, hdone]
    · rw [hdone] at h
      cases h
  rw [hout] at htake
  rw [hdone] at halike
  -- A try takes no time.
  dsimp only
  rw [htries, List.dropLast_concat, halike.clock, clock_of_take htake]
  unfold triesTold
  rw [List.flatMap_append, List.flatMap_singleton, htake]
  rfl

theorem wait_sound (token : Option String) (ttl interval timeout : Value) :
    Sound n keys T (m.waitTold key token ttl interval timeout s)
      ((m.wait key token ttl interval timeout).perform s).2 := by
  unfold waitTold
  rw [wait_eq]
  rcases m.waitPlan .seconds ttl interval timeout with f | ⟨p, pace, t⟩
  · exact h.sound_nil
  · obtain ⟨hagreed, htracks⟩ :=
      tryAt_sound h hn key (tokenAt token s) p (paceInstants_sorted s.clock pace t)
    dsimp only
    have halike := m.stopped_alike key pace t 0 t
      (m.tryAt key (tokenAt token s) p (paceInstants s.clock pace t) s)
    rcases hdone : m.stopped key pace t 0 t
      (m.tryAt key (tokenAt token s) p (paceInstants s.clock pace t) s) with ⟨f | b, s'⟩
    all_goals rw [hdone] at halike
    · exact ⟨hagreed, htracks.alike halike⟩
    · dsimp only
      rw [triesTold_last key _ _ hdone]
      exact ⟨hagreed, htracks.alike halike⟩

end LockManager
end Leasehold

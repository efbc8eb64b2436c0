import Leasehold.Proofs.Lock.Table
import Leasehold.Proofs.Transaction.Frame

/-!
# Any run of lock operations follows its table

- **Steps** (`LockStep`): the operations of any managers and handles, and whatever else happens.
- **Running** (`World.step`, `World.run`): the operations themselves, with the answers that were
  observed on the way.
- **The table** (`World.run_follows_table`): if nothing else touches some locks, and nobody holds them
  at the start, each answer about them is the one that the table of the answers before it gives.
-/

namespace Leasehold

open Session LockTable Observation

/-! ## Steps -/

/-- A step of a run: a call to a manager, an enter or an exit of a handle, time that passes, or
something from outside. Handles have the numbers in which they were made. -/
inductive LockStep where
  | acquire (m : LockManager) (key : String) (token : Option String) (ttl : Value)
  | release (m : LockManager) (key token : String)
  | extend (m : LockManager) (key token : String) (ttl : Value)
  | isLocked (m : LockManager) (key : String)
  | owner (m : LockManager) (key : String)
  | wait (m : LockManager) (key : String) (token : Option String) (ttl interval timeout : Value)
  | lock (m : LockManager) (key : String) (ttl : Value)
  | enter (handle : Nat)
  | exit (handle : Nat) (pending : Except Failure Unit)
  | pass (ms : Nat)
  | happening (h : Happening)
  | expect (events : List Event)
  | arrange (p : Point) (faults : List (Option Failure))
  | transact (r : TransactionRunner) (keys : List String) (build : Build) (maxRetries : Value)
      (hook : Option Hook)

/-- A session, and the handles that were made in it. -/
structure World where
  session : Session
  handles : List Handle

namespace World

/-- Does an action, and notes what it was answered about a lock. -/
def asking {α : Type} (w : World) (key : String) (answer : α → Answer) (a : Action α) :
    List Observation × World :=
  let (outcome, session) := a.perform w.session
  (told w.session.clock key answer outcome, { w with session })

/-- The session in which a handle is left while a failure is on its way, if there is one. -/
def leaving (pending : Except Failure Unit) (s : Session) : Session :=
  { s with handling := match pending with
    | .error f => some f
    | .ok () => s.handling }

/-- Makes a handle. -/
def locking (w : World) (m : LockManager) (key : String) (ttl : Value) : World :=
  match (m.lock key ttl).perform w.session with
  | (.error _, session) => { w with session }
  | (.ok h, session) => ⟨session, w.handles ++ [h]⟩

/-- Enters a handle. -/
def entering (w : World) (i : Nat) : List Observation × World :=
  match w.handles[i]? with
  | none => ([], w)
  | some h =>
    let (outcome, session) := h.enter.perform w.session
    let h' := match outcome with
      | .error _ => h
      | .ok b => h.entered b
    (told w.session.clock (h.manager.keyPrefix ++ h.key) (.acquired h.token h.ttl.val) outcome,
      ⟨session, w.handles.set i h'⟩)

/-- Leaves a handle. -/
def exiting (w : World) (i : Nat) (pending : Except Failure Unit) : List Observation × World :=
  match w.handles[i]? with
  | none => ([], w)
  | some h =>
    let answers := if h.isHolding then
        told w.session.clock (h.manager.keyPrefix ++ h.key) (.released h.token)
          ((h.manager.release h.key h.token).perform (leaving pending w.session)).1
      else []
    (answers, ⟨((h.exitDuring pending).perform w.session).2, w.handles.set i h.left⟩)

/-- Makes a step; the answers that were observed. -/
def step (w : World) : LockStep → List Observation × World
  | .acquire m key token ttl =>
    w.asking (m.keyPrefix ++ key)
      (.acquired (LockManager.tokenAt token w.session) (milliseconds (m.lifetime ttl)))
      (m.acquire key token ttl)
  | .release m key token => w.asking (m.keyPrefix ++ key) (.released token) (m.release key token)
  | .extend m key token ttl =>
    w.asking (m.keyPrefix ++ key)
      (.extended token (milliseconds (Parameter.period "additional_ttl_ms" ttl)))
      (m.extend key token ttl)
  | .isLocked m key => w.asking (m.keyPrefix ++ key) .locked (m.isLocked key)
  | .owner m key => w.asking (m.keyPrefix ++ key) .owned (m.owner? key)
  | .wait m key token ttl interval timeout =>
    (m.waitTold key token ttl interval timeout w.session,
      { w with session := ((m.wait key token ttl interval timeout).perform w.session).2 })
  | .lock m key ttl => ([], w.locking m key ttl)
  | .enter i => w.entering i
  | .exit i pending => w.exiting i pending
  | .pass ms => ([], { w with session := w.session.pass ms })
  | .happening h => ([], { w with session := (h.run w.session).2 })
  | .expect events => ([], { w with session := w.session.expecting events })
  | .arrange p faults => ([], { w with session := w.session.arrange p faults })
  | .transact r keys build maxRetries hook =>
    ([], { w with session := (r.run keys build maxRetries hook { session := w.session }).2.session })

/-- Makes steps one after the other; the answers that were observed. -/
def run (w : World) : List LockStep → List Observation × World
  | [] => ([], w)
  | a :: rest =>
    let (os, w) := w.step a
    let (ps, w) := run w rest
    (os ++ ps, w)

end World

/-- A step that uses one database for its locks, and does not touch some keys except by lock
operations. -/
def LockStep.Allowed (n : Int) (keys : Set String) : LockStep → Prop
  | .acquire m _ _ _ => m.client.database = n
  | .release m _ _ => m.client.database = n
  | .extend m _ _ _ => m.client.database = n
  | .isLocked m _ => m.client.database = n
  | .owner m _ => m.client.database = n
  | .wait m _ _ _ _ _ => m.client.database = n
  | .lock m _ _ => m.client.database = n
  | .happening h => ∀ k ∈ keys, h.Spares (Utf8.encode k)
  | .expect events => ∀ e ∈ events, ∀ k ∈ keys, e.happening.Spares (Utf8.encode k)
  | .transact _ _ build _ _ => ∀ k ∈ keys, build.Spares (Utf8.encode k)
  | .enter _ | .exit _ _ | .pass _ | .arrange _ _ => True

/-! ## Handles -/

theorem LockManager.lock_spec (m : LockManager) (key : String) (ttl : Value) (s : Session) :
    ((m.lock key ttl).perform s).2.Alike s ∧
      ∀ h, ((m.lock key ttl).perform s).1 = .ok h → h.manager = m := by
  unfold LockManager.lock
  rw [Action.perform_bind, Action.perform_ofExcept]
  cases m.lifetime ttl with
  | error f => exact ⟨.refl s, fun _ e => nomatch e⟩
  | ok p =>
    dsimp only
    unfold Action.freshIdentifier
    rw [Action.perform_bind, Action.perform_of]
    dsimp only
    rw [Action.perform_pure]
    exact ⟨⟨⟨rfl, fun _ => rfl⟩, rfl, rfl⟩, fun _ e => by cases e; rfl⟩

theorem World.leaving_alike (pending : Except Failure Unit) (s : Session) :
    (leaving pending s).Alike s := ⟨⟨rfl, fun _ => rfl⟩, rfl, rfl⟩

/-- Leaving a handle gives back its lock, and nothing else. -/
theorem Handle.exitDuring_alike (h : Handle) (pending : Except Failure Unit) (s : Session) :
    ((h.exitDuring pending).perform s).2.Alike (if h.isHolding then
      ((h.manager.release h.key h.token).perform (World.leaving pending s)).2 else s) := by
  have hexit : (h.exit.perform (World.leaving pending s)).2 = if h.isHolding then
      ((h.manager.release h.key h.token).perform (World.leaving pending s)).2
      else World.leaving pending s := by
    unfold Handle.exit
    cases h.isHolding with
    | false => rfl
    | true =>
      simp only [if_true, Action.perform_bind]
      rcases (h.manager.release h.key h.token).perform (World.leaving pending s) with ⟨f | b, t⟩ <;>
        rfl
  have halike : ((h.exitDuring pending).perform s).2.Alike
      (h.exit.perform (World.leaving pending s)).2 := by
    unfold Handle.exitDuring
    rw [Action.perform_of]
    dsimp only
    split
    · rename_i t hdone
      rw [show h.exit.perform (World.leaving pending s) = _ from hdone]
      exact ⟨⟨rfl, fun _ => rfl⟩, rfl, rfl⟩
    · rename_i f t hdone
      rw [show h.exit.perform (World.leaving pending s) = _ from hdone]
      exact ⟨⟨rfl, fun _ => rfl⟩, rfl, rfl⟩
  rw [hexit] at halike
  split at halike
  · rwa [if_pos ‹_›]
  · rw [if_neg ‹_›]
    exact halike.trans (World.leaving_alike pending s)

/-! ## Runs -/

namespace World

variable {n : Int} {keys : Set String} {T : LockTable} {w : World}

/-- A table tracks the session of a world, in which all handles are for one database. -/
structure Tracked (n : Int) (keys : Set String) (T : LockTable) (w : World) : Prop where
  session : LockTable.Tracks n keys T w.session
  handles : ∀ h ∈ w.handles, h.manager.client.database = n

/-- Answers agree with a table that tracks a world, and it goes on tracking. -/
structure Sound (n : Int) (keys : Set String) (T : LockTable) (done : List Observation × World) :
    Prop where
  agreed : Agreed keys T done.1
  tracked : done.2.Tracked n keys (T.after done.1)

/-- A step that leaves the handles as they are. -/
theorem Tracked.same (hw : w.Tracked n keys T) {os : List Observation} {s : Session}
    (h : LockTable.Sound n keys T os s) : Sound n keys T (os, { w with session := s }) :=
  ⟨h.agreed, h.tracks, hw.handles⟩

/-- A step that changes what a handle holds. -/
theorem Tracked.setting (hw : w.Tracked n keys T) {i : Nat} {h h' : Handle}
    (hi : w.handles[i]? = some h) (hm : h'.manager = h.manager) {os : List Observation} {s : Session}
    (hs : LockTable.Sound n keys T os s) : Sound n keys T (os, ⟨s, w.handles.set i h'⟩) := by
  refine ⟨hs.agreed, hs.tracks, fun g hg => ?_⟩
  obtain hg | rfl := List.mem_or_eq_of_mem_set hg
  · exact hw.handles g hg
  · rw [hm]
    exact hw.handles h (List.mem_of_getElem? hi)

theorem locking_tracked (hw : w.Tracked n keys T) {m : LockManager} (hn : m.client.database = n)
    (key : String) (ttl : Value) : (w.locking m key ttl).Tracked n keys T := by
  obtain ⟨halike, hmanager⟩ := m.lock_spec key ttl w.session
  unfold locking
  rcases hdone : (m.lock key ttl).perform w.session with ⟨f | h, s⟩
  all_goals rw [hdone] at halike hmanager
  · exact ⟨hw.session.alike halike, hw.handles⟩
  · refine ⟨hw.session.alike halike, fun g hg => ?_⟩
    obtain hg | hg := List.mem_append.mp hg
    · exact hw.handles g hg
    · rw [List.mem_singleton.mp hg, hmanager h rfl]
      exact hn

theorem entering_sound (hw : w.Tracked n keys T) (i : Nat) : Sound n keys T (w.entering i) := by
  unfold entering
  cases hi : w.handles[i]? with
  | none => exact hw.same hw.session.sound_nil
  | some h =>
    refine hw.setting hi ?_ (LockManager.take_sound hw.session
      (hw.handles h (List.mem_of_getElem? hi)) h.key h.token h.ttl)
    split <;> rfl

theorem exiting_sound (hw : w.Tracked n keys T) (i : Nat) (pending : Except Failure Unit) :
    Sound n keys T (w.exiting i pending) := by
  unfold exiting
  cases hi : w.handles[i]? with
  | none => exact hw.same hw.session.sound_nil
  | some h =>
    have halike := h.exitDuring_alike pending w.session
    have hrelease := LockManager.release_sound (hw.session.alike (leaving_alike pending w.session))
      (hw.handles h (List.mem_of_getElem? hi)) h.key h.token
    have hleft : h.left.manager = h.manager := rfl
    refine hw.setting hi hleft ?_
    split
    · rw [if_pos ‹_›] at halike
      exact ⟨hrelease.agreed, hrelease.tracks.alike halike⟩
    · rw [if_neg ‹_›] at halike
      exact (hw.session.alike halike).sound_nil

theorem step_sound (hw : w.Tracked n keys T) {a : LockStep} (ha : a.Allowed n keys) :
    Sound n keys T (w.step a) := by
  have h := hw.session
  cases a with
  | acquire m key token ttl => exact hw.same (LockManager.acquire_sound h ha key token ttl)
  | release m key token => exact hw.same (LockManager.release_sound h ha key token)
  | extend m key token ttl => exact hw.same (LockManager.extend_sound h ha key token ttl)
  | isLocked m key => exact hw.same (LockManager.isLocked_sound h ha key)
  | owner m key => exact hw.same (LockManager.owner?_sound h ha key)
  | wait m key token ttl interval timeout =>
    exact hw.same (LockManager.wait_sound h ha key token ttl interval timeout)
  | lock m key ttl => exact ⟨trivial, locking_tracked hw ha key ttl⟩
  | enter i => exact entering_sound hw i
  | exit i pending => exact exiting_sound hw i pending
  | pass ms =>
    exact hw.same (h.passTo (Int.le_add_of_nonneg_right (Int.natCast_nonneg ms))).sound_nil
  | happening e => exact hw.same (h.spared fun k hk => run_spared (ha k hk) w.session).sound_nil
  | expect events =>
    have hexpect : LockTable.Tracks n keys T { w.session with
        events := events.mergeSort fun a b => decide (a.due ≤ b.due) } :=
      ⟨h.entries, fun e he => ha e (List.mem_mergeSort.mp he)⟩
    exact hw.same (hexpect.passTo (Int.le_refl _)).sound_nil
  | arrange p faults =>
    have halike : (w.session.arrange p faults).Alike w.session := ⟨⟨rfl, fun _ => rfl⟩, rfl, rfl⟩
    exact hw.same (h.alike halike).sound_nil
  | transact r watched build maxRetries hook =>
    exact hw.same (h.spared fun k hk => r.run_spared watched maxRetries hook (ha k hk)
      fun e he => h.events e he k hk).sound_nil

theorem run_sound (hw : w.Tracked n keys T) {steps : List LockStep}
    (allowed : ∀ a ∈ steps, a.Allowed n keys) : Sound n keys T (w.run steps) := by
  induction steps generalizing T w with
  | nil => exact ⟨trivial, hw⟩
  | cons a rest ih =>
    obtain ⟨hfirst, hnext⟩ := step_sound hw (allowed a List.mem_cons_self)
    obtain ⟨hrest, hend⟩ := ih hnext fun b hb => allowed b (List.mem_cons_of_mem a hb)
    refine ⟨agreed_append hfirst hrest, ?_⟩
    show Tracked n keys (T.after ((w.step a).1 ++ ((w.step a).2.run rest).1)) _
    unfold LockTable.after
    rw [List.foldl_append]
    exact hend

/-- A world in which nobody holds any of the locks is tracked by the empty table. -/
theorem tracked_empty (handles : ∀ h ∈ w.handles, h.manager.client.database = n)
    (free : ∀ k ∈ keys, (w.session.database n).live w.session.clock (Utf8.encode k) = none)
    (events : ∀ e ∈ w.session.events, ∀ k ∈ keys, e.happening.Spares (Utf8.encode k)) :
    w.Tracked n keys .empty := by
  refine ⟨⟨fun k hk now hnow => ?_, events⟩, handles⟩
  have hfree := free k hk
  show _ = none
  unfold Store.live at hfree ⊢
  cases hf : (w.session.database n).find? (Utf8.encode k) with
  | none => rfl
  | some e =>
    -- What is past its deadline stays so.
    rw [hf, Option.filter_some] at hfree
    rw [Option.filter_some]
    unfold Entry.isLive at hfree ⊢
    cases he : e.deadline with
    | none => rw [he] at hfree; cases hfree
    | some d =>
      rw [he] at hfree
      dsimp only at hfree ⊢
      split at hfree
      · cases hfree
      · rename_i hd
        rw [decide_eq_true_eq] at hd
        rw [if_neg (by rw [decide_eq_true_eq]; omega)]

/-- **Any run of lock operations follows its table.** Whatever managers, tokens, handles, clock, other
clients, transactions and failures do in whatever order, as long as nothing but lock operations
touches some locks, and nobody holds them at the start: each answer about one of them is the answer of
the table that the answers before it make, and in the end the store holds what the table says. -/
theorem run_follows_table (n : Int) (keys : Set String) (w : World) (steps : List LockStep)
    (handles : ∀ h ∈ w.handles, h.manager.client.database = n)
    (free : ∀ k ∈ keys, (w.session.database n).live w.session.clock (Utf8.encode k) = none)
    (events : ∀ e ∈ w.session.events, ∀ k ∈ keys, e.happening.Spares (Utf8.encode k))
    (allowed : ∀ a ∈ steps, a.Allowed n keys) :
    let os := (w.run steps).1
    let s := (w.run steps).2.session
    (∀ before o rest, os = before ++ o :: rest → o.key ∈ keys →
      o.Agrees (LockTable.empty.after before)) ∧
    ∀ k ∈ keys, (s.database n).live s.clock (Utf8.encode k) =
      ((LockTable.empty.after os).at? s.clock k).map Holding.entry := by
  intro os s
  obtain ⟨hagreed, htracked⟩ := run_sound (tracked_empty handles free events) allowed
  refine ⟨fun before o rest hos hkey => ?_, fun k hk =>
    htracked.session.entries k hk s.clock (Int.le_refl _)⟩
  rw [show (w.run steps).1 = _ from hos] at hagreed
  exact hagreed.mid hkey

/-- Two callers want one lock: the second gets it when the first has let it run out. -/
def contendedLock : List LockStep :=
  [.acquire {} "a" (some "x") (.int 100), .acquire {} "a" (some "y") (.int 50), .pass 100,
    .owner {} "a", .pass 1, .acquire {} "a" (some "y") (.int 50)]

theorem contendedLock_allowed : ∀ a ∈ contendedLock, a.Allowed 0 {"a"} := by
  intro a ha
  unfold contendedLock at ha
  simp only [List.mem_cons, List.not_mem_nil, or_false] at ha
  rcases ha with rfl | rfl | rfl | rfl | rfl | rfl <;> trivial

/-- In the run of the contended lock, the last answer is the one of the table. -/
theorem run_contendedLock : (∀ a ∈ contendedLock, a.Allowed 0 {"a"}) ∧
    ∃ before o, ((⟨.start false, []⟩ : World).run contendedLock).1 = before ++ [o] ∧
      o.answer = .acquired "y" 50 true ∧ o.Agrees (LockTable.empty.after before) := by
  have h := run_follows_table 0 {"a"} ⟨.start false, []⟩ contendedLock
    (fun _ hh => absurd hh List.not_mem_nil) (fun _ _ => rfl) (fun _ he => absurd he List.not_mem_nil)
    contendedLock_allowed
  have hrun : ((⟨.start false, []⟩ : World).run contendedLock).1 = [
      ⟨epoch, "a", .acquired "x" 100 true⟩, ⟨epoch, "a", .acquired "y" 50 false⟩,
      ⟨epoch + 100, "a", .owned (some "x")⟩] ++ [⟨epoch + 101, "a", .acquired "y" 50 true⟩] := by
    decide +kernel
  exact ⟨contendedLock_allowed, _, _, hrun, rfl, h.1 _ _ _ hrun rfl⟩

end World
end Leasehold

import Leasehold.Proofs.Lock.Ownership

/-!
# An exit leaves no lock behind

What becomes of the lock that an enter took, when handles are all that there is, the server is up and
nothing is arranged.

- **Tokens** (`World.Undisturbed`): no two handles of a run have the same, because their identifiers are
  new each time (`Action.twelveDigits_injective`).
- **Other handles** (`LockManager.Footprint.holds_of_holds`): what is done with another token gives
  nobody a lock.
- **Remembering** (`World.Remembers`): a handle whose token holds its lock knows it, as long as it is not
  entered meanwhile. Then its next exit gives the lock back (`World.exit_frees_what_was_taken`).
- **Forgetting** (`World.reentered_keeps_lock`): a handle that is entered while it holds its lock is
  refused, and takes this for the state of the first enter, too: no exit gives the lock back.
-/

namespace Leasehold

open Session

/-! ## Tokens -/

namespace Action

theorem twelveDigits_injective : Function.Injective twelveDigits := by
  have hread : ∀ n, Nat.ofDigitChars 10 (twelveDigits n).toList 0 = n := fun n => by
    simp [twelveDigits, Nat.ofDigitChars_append, Nat.ofDigitChars_replicate_zero,
      Nat.ofDigitChars_toDigits]
  intro n m h
  rw [← hread n, h, hread]

theorem identifier_injective : Function.Injective identifier := fun _ _ h =>
  twelveDigits_injective ((String.append_right_inj _).mp h)

end Action

/-! ## Who holds a lock -/

theorem Entry.isLive_of_le {e : Entry} {now later : Int} (hle : now ≤ later)
    (h : e.isLive later = true) : e.isLive now = true := by
  unfold isLive at h ⊢
  cases hd : e.deadline with
  | none => rfl
  | some d =>
    simp only [hd, decide_eq_true_eq] at h ⊢
    omega

namespace LockManager

variable {m m' : LockManager} {key key' token token' : String} {s s' : Session}

theorem holds_congr (h : s.SameEntries s') : m.Holds key token s' ↔ m.Holds key token s := by
  unfold Holds entry Store.live
  rw [h.clock, h.entry]

/-- Time gives nobody a lock. -/
theorem Holds.of_later {instant : Int} (hle : s.clock ≤ instant)
    (h : m.Holds key token (s.atClock instant)) : m.Holds key token s := by
  obtain ⟨t, ht⟩ := h
  obtain ⟨hfind, hlive⟩ := Option.filter_eq_some_iff.mp ht
  exact ⟨t, Option.filter_eq_some_iff.mpr ⟨hfind, Entry.isLive_of_le hle hlive⟩⟩

/-- With the server up and nothing arranged, the holder of a lock gives it back. -/
theorem release_of_holds (calm : s.Calm) (isUp : s.isUp = true) (held : m.Holds key token s) :
    ∃ t, (m.release key token).perform s = (.ok true, t) ∧ ¬ m.Holds key token t := by
  have hspec := m.release_spec key token s
  generalize (m.release key token).perform s = done at hspec ⊢
  cases hspec with
  | failed why alike =>
    obtain ⟨f, hunanswered, -⟩ := why
    cases hunanswered with
    | arranged fault =>
      rw [(Quiet.refl s).takeFault_none (calm.reliable _)] at fault
      cases fault
    | down fault hdown =>
      rw [isUp] at hdown
      cases hdown
    | refused fault _ refusal =>
      obtain ⟨t, ht⟩ := held
      unfold entry at ht
      simp [Script.send, Script.run, ht, Command.run] at refusal
  | foreign other alike => exact absurd held other
  | done _ alike =>
    refine ⟨_, rfl, ?_⟩
    rintro ⟨t, ht⟩
    rw [entry_congr alike, entry_withoutEntry] at ht
    cases ht

/-- What an operation leaves gives a token no lock, if it does not leave that token. -/
theorem Footprint.holds_of_holds {found : Prop} {after : Option Entry → Prop}
    {done : Except Failure Bool × Session} (h : m.Footprint key s found after done)
    (hafter : ∀ t, ¬ after (some ⟨.string (Utf8.encode token'), t⟩))
    (holds : m'.Holds key' token' done.2) : m'.Holds key' token' s := by
  cases h with
  | failed same => exact (holds_congr same).mp holds
  | declined _ same => exact (holds_congr same).mp holds
  | done _ right only =>
    obtain ⟨t, ht⟩ := holds
    by_cases hk : (m'.client.database, Utf8.encode (m'.keyPrefix ++ key')) =
        (m.client.database, Utf8.encode (m.keyPrefix ++ key))
    · obtain ⟨hn, hkey⟩ := Prod.mk.inj hk
      have hlock := only.lock
      unfold entry at ht hlock
      dsimp only at ht
      rw [hn, hkey, hlock] at ht
      exact absurd (ht ▸ right) (hafter t)
    · refine ⟨t, ?_⟩
      rw [← ht]
      unfold entry Store.live
      rw [only.clock, only.elsewhere _ _ hk]

end LockManager

/-! ## Exits -/

namespace Handle

variable (h : Handle) (pending : Except Failure Unit) (s : Session)

theorem exit_working : h.exit.Working := by
  unfold exit
  split
  · exact .bind (h.manager.release_working h.key h.token) fun _ => .pure _
  · exact .pure _

theorem exitDuring_session : ((h.exitDuring pending).perform s).2 =
    { (h.exit.perform (World.leaving pending s)).2 with handling := s.handling } := by
  rw [h.perform_exitDuring]
  split <;> simp_all

variable {h pending s}

/-- An exit gives nobody a lock. -/
theorem exitDuring_holds {m : LockManager} {key token : String}
    (holds : m.Holds key token ((h.exitDuring pending).perform s).2) : m.Holds key token s := by
  have halike := h.exitDuring_alike pending s
  rw [LockManager.holds_congr halike.sameEntries] at holds
  split at holds
  · have hrelease := h.manager.release_footprint h.key h.token (World.leaving pending s)
    exact hrelease.holds_of_holds (by simp) holds
  · exact holds

/-- A handle that knows whether it holds its lock does not hold it after its exit. -/
theorem exitDuring_frees (calm : s.Calm) (isUp : s.isUp = true)
    (knows : h.manager.Holds h.key h.token s → h.isHolding = true) :
    ¬ h.manager.Holds h.key h.token ((h.exitDuring pending).perform s).2 := by
  intro hafter
  have hbefore := exitDuring_holds hafter
  have halike := h.exitDuring_alike pending s
  rw [if_pos (knows hbefore)] at halike
  have hcalm : (World.leaving pending s).Calm := ⟨calm.events, calm.reliable⟩
  obtain ⟨t, hdone, hfree⟩ := LockManager.release_of_holds hcalm isUp hbefore
  rw [hdone] at halike
  exact hfree ((LockManager.holds_congr halike.sameEntries).mp hafter)

end Handle

/-! ## Worlds of handles -/

/-- A step of handles: one is made, entered or left, or time passes. -/
def LockStep.OfHandles : LockStep → Prop
  | .lock .. | .enter _ | .exit .. | .pass _ => True
  | _ => False

namespace World

variable {w : World} {i : Nat} {h : Handle}

/-- The server of a world is up, nothing is arranged or to come, and no two handles have the same
token, nor will any get one that there is already. -/
structure Undisturbed (w : World) : Prop where
  calm : w.session.Calm
  isUp : w.session.isUp = true
  distinct : (w.handles.map (·.token)).Nodup
  issued : ∀ t ∈ w.handles.map (·.token), ∃ n ≤ w.session.identifiers, t = Action.identifier n

/-- A session in which a handle was entered or left. -/
theorem Undisturbed.setting (hw : w.Undisturbed) (hi : w.handles[i]? = some h) {h' : Handle}
    (token : h'.token = h.token) {s : Session} (calm : s.Calm) (isUp : s.isUp = w.session.isUp)
    (identifiers : s.identifiers = w.session.identifiers) :
    Undisturbed ⟨s, w.handles.set i h'⟩ := by
  have hsame : (w.handles.set i h').map (·.token) = w.handles.map (·.token) := by
    obtain ⟨hlt, rfl⟩ := List.getElem?_eq_some_iff.mp hi
    refine List.ext_getElem (by simp) fun j _ _ => ?_
    by_cases hij : i = j
    · subst hij
      simp [token]
    · simp [hij]
  exact ⟨calm, isUp.trans hw.isUp, hsame ▸ hw.distinct, by rw [hsame, identifiers]; exact hw.issued⟩

theorem locking_undisturbed (hw : w.Undisturbed) (m : LockManager) (key : String) (ttl : Value) :
    (w.locking m key ttl).Undisturbed := by
  unfold locking
  rw [m.lock_eq]
  cases m.lifetime ttl with
  | error f => exact hw
  | ok p =>
    have hnew : Action.identifier (w.session.identifiers + 1) ∉ w.handles.map (·.token) := by
      intro hmem
      obtain ⟨n, hn, heq⟩ := hw.issued _ hmem
      have := Action.identifier_injective heq
      omega
    refine ⟨⟨hw.calm.events, hw.calm.reliable⟩, hw.isUp, ?_, fun t ht => ?_⟩
    · rw [List.map_append, List.map_singleton, ← List.concat_eq_append]
      exact hw.distinct.concat hnew
    · obtain ht | rfl : t ∈ w.handles.map (·.token) ∨
          t = Action.identifier (w.session.identifiers + 1) := by
        simpa using ht
      · obtain ⟨n, hn, rfl⟩ := hw.issued t ht
        exact ⟨n, Nat.le_succ_of_le hn, rfl⟩
      · exact ⟨_, Nat.le_refl _, rfl⟩

theorem entering_undisturbed (hw : w.Undisturbed) (i : Nat) : (w.entering i).2.Undisturbed := by
  unfold entering
  cases hi : w.handles[i]? with
  | none => exact hw
  | some h =>
    have hworked := h.manager.take_working h.key h.token h.ttl w.session
    exact hw.setting hi (by split <;> rfl) (hworked.calm hw.calm) hworked.isUp hworked.identifiers

theorem exiting_undisturbed (hw : w.Undisturbed) (i : Nat) (pending : Except Failure Unit) :
    (w.exiting i pending).2.Undisturbed := by
  unfold exiting
  cases hi : w.handles[i]? with
  | none => exact hw
  | some h =>
    have hworked := h.exit_working (leaving pending w.session)
    have hcalm := hworked.calm ⟨hw.calm.events, hw.calm.reliable⟩
    have hleft : h.left.token = h.token := rfl
    have hsession := h.exitDuring_session pending w.session
    refine hw.setting hi hleft ?_ ?_ ?_
    all_goals rw [hsession]
    · exact ⟨hcalm.events, hcalm.reliable⟩
    · exact hworked.isUp
    · exact hworked.identifiers

theorem step_undisturbed (hw : w.Undisturbed) {a : LockStep} (ha : a.OfHandles) :
    (w.step a).2.Undisturbed := by
  cases a with
  | lock m key ttl => exact locking_undisturbed hw m key ttl
  | enter i => exact entering_undisturbed hw i
  | exit i pending => exact exiting_undisturbed hw i pending
  | pass ms =>
    have hpass := hw.calm.passTo_eq (w.session.clock + ms)
    refine ⟨?_, ?_, hw.distinct, ?_⟩
    all_goals
      show _
      simp only [step, Session.pass, hpass]
    · exact hw.calm.atClock _
    · exact hw.isUp
    · exact hw.issued
  | acquire | release | extend | isLocked | owner | wait | happening | expect | arrange | transact =>
    exact absurd ha id

theorem run_undisturbed (hw : w.Undisturbed) {steps : List LockStep}
    (ofHandles : ∀ a ∈ steps, a.OfHandles) : (w.run steps).2.Undisturbed := by
  induction steps generalizing w with
  | nil => exact hw
  | cons a rest ih =>
    exact ih (step_undisturbed hw (ofHandles a List.mem_cons_self)) fun b hb =>
      ofHandles b (List.mem_cons_of_mem a hb)

theorem Undisturbed.token_ne (hw : w.Undisturbed) {j : Nat} {g : Handle}
    (hi : w.handles[i]? = some h) (hj : w.handles[j]? = some g) (hij : i ≠ j) :
    g.token ≠ h.token := by
  intro heq
  have hlt : i < (w.handles.map (·.token)).length := by
    simpa using (List.getElem?_eq_some_iff.mp hi).1
  exact hij ((List.getElem?_inj hlt hw.distinct).mp (by simp [hi, hj, heq]))

/-! ## Remembering -/

/-- A handle is there with its lock and its token, and if the token holds the lock, it knows that. -/
def Remembers (w : World) (i : Nat) (h : Handle) : Prop :=
  ∃ b, w.handles[i]? = some { h with isHolding := b } ∧
    (h.manager.Holds h.key h.token w.session → b = true)

theorem locking_remembers (hr : w.Remembers i h) (m : LockManager) (key : String) (ttl : Value) :
    (w.locking m key ttl).Remembers i h := by
  unfold locking
  rw [m.lock_eq]
  cases m.lifetime ttl with
  | error f => exact hr
  | ok p =>
    obtain ⟨b, hi, hb⟩ := hr
    exact ⟨b, (List.getElem?_append_left (List.getElem?_eq_some_iff.mp hi).1).trans hi, hb⟩

/-- Entering a handle that does not hold its lock: either it takes it and knows, or it does not get
it. -/
theorem entering_self_remembers (hi : w.handles[i]? = some h)
    (alone : ¬ h.manager.Holds h.key h.token w.session) : (w.entering i).2.Remembers i h := by
  have hlt := (List.getElem?_eq_some_iff.mp hi).1
  have hspec := h.manager.take_spec h.key h.token w.session h.ttl
  unfold entering Handle.enter
  rw [hi]
  dsimp only
  generalize (h.manager.take h.key h.token h.ttl).perform w.session = done at hspec ⊢
  cases hspec with
  | failed _ alike =>
    exact ⟨h.isHolding, by simp [hlt], fun held =>
      absurd ((LockManager.holds_congr alike.sameEntries).mp held) alone⟩
  | busy _ alike =>
    exact ⟨false, by simp [hlt, Handle.entered], fun held =>
      absurd ((LockManager.holds_congr alike.sameEntries).mp held) alone⟩
  | taken _ _ => exact ⟨true, by simp [hlt, Handle.entered], fun _ => rfl⟩

/-- A handle that took its lock knows it. -/
theorem entering_taken_remembers (hi : w.handles[i]? = some h)
    (took : (h.enter.perform w.session).1 = .ok true) : (w.entering i).2.Remembers i h := by
  have hlt := (List.getElem?_eq_some_iff.mp hi).1
  unfold entering
  rw [hi]
  dsimp only
  rw [took]
  exact ⟨true, by simp [hlt, Handle.entered], fun _ => rfl⟩

theorem entering_other_remembers (hw : w.Undisturbed) (hr : w.Remembers i h) {j : Nat}
    (hij : i ≠ j) : (w.entering j).2.Remembers i h := by
  obtain ⟨b, hi, hb⟩ := hr
  unfold entering
  cases hj : w.handles[j]? with
  | none => exact ⟨b, hi, hb⟩
  | some g =>
    refine ⟨b, by simp [hij.symm, hi], fun held => hb ?_⟩
    have htake := g.manager.take_footprint g.key g.token w.session g.ttl
    refine htake.holds_of_holds (fun t heq => ?_) held
    have htoken : Utf8.encode h.token = Utf8.encode g.token := by
      simpa [LockManager.lease] using congrArg (Option.map Entry.datum) heq
    exact hw.token_ne hi hj hij (Utf8.encode_inj.mp htoken).symm

theorem exiting_other_remembers (hr : w.Remembers i h) {j : Nat} (hij : i ≠ j)
    (pending : Except Failure Unit) : (w.exiting j pending).2.Remembers i h := by
  obtain ⟨b, hi, hb⟩ := hr
  unfold exiting
  cases hj : w.handles[j]? with
  | none => exact ⟨b, hi, hb⟩
  | some g => exact ⟨b, by simp [hij.symm, hi], fun held => hb (Handle.exitDuring_holds held)⟩

/-- The exit of a handle that remembers gives back its lock, if the token holds it. -/
theorem exiting_self_frees (hw : w.Undisturbed) (hr : w.Remembers i h)
    (pending : Except Failure Unit) :
    (w.exiting i pending).2.handles[i]? = some h.left ∧
      ¬ h.manager.Holds h.key h.token (w.exiting i pending).2.session := by
  obtain ⟨b, hi, hb⟩ := hr
  unfold exiting
  rw [hi]
  refine ⟨by simp [(List.getElem?_eq_some_iff.mp hi).1, Handle.left], ?_⟩
  exact Handle.exitDuring_frees (h := { h with isHolding := b }) hw.calm hw.isUp hb

theorem step_remembers (hw : w.Undisturbed) (hr : w.Remembers i h) {a : LockStep}
    (ha : a.OfHandles) (alone : a = .enter i → ¬ h.manager.Holds h.key h.token w.session) :
    (w.step a).2.Remembers i h := by
  cases a with
  | lock m key ttl => exact locking_remembers hr m key ttl
  | enter j =>
    by_cases hij : i = j
    · subst hij
      obtain ⟨b, hi, -⟩ := hr
      exact entering_self_remembers (h := { h with isHolding := b }) hi (alone rfl)
    · exact entering_other_remembers hw hr hij
  | exit j pending =>
    by_cases hij : i = j
    · subst hij
      obtain ⟨hleft, hfree⟩ := exiting_self_frees hw hr pending
      exact ⟨false, hleft, fun held => absurd held hfree⟩
    · exact exiting_other_remembers hr hij pending
  | pass ms =>
    obtain ⟨b, hi, hb⟩ := hr
    refine ⟨b, hi, fun held => hb ?_⟩
    simp only [step, Session.pass, hw.calm.passTo_eq] at held
    exact held.of_later (by omega)
  | acquire | release | extend | isLocked | owner | wait | happening | expect | arrange | transact =>
    exact absurd ha id

/-- Whenever a run enters a handle, its token does not hold its lock. -/
def NeverReenters (w : World) (i : Nat) (h : Handle) (steps : List LockStep) : Prop :=
  ∀ before after, steps = before ++ .enter i :: after →
    ¬ h.manager.Holds h.key h.token (w.run before).2.session

theorem run_remembers (hw : w.Undisturbed) (hr : w.Remembers i h) {steps : List LockStep}
    (ofHandles : ∀ a ∈ steps, a.OfHandles) (alone : w.NeverReenters i h steps) :
    (w.run steps).2.Remembers i h := by
  induction steps generalizing w with
  | nil => exact hr
  | cons a rest ih =>
    have ha := ofHandles a List.mem_cons_self
    have hfirst : a = .enter i → ¬ h.manager.Holds h.key h.token w.session := by
      rintro rfl
      exact alone [] rest rfl
    exact ih (step_undisturbed hw ha) (step_remembers hw hr ha hfirst)
      (fun b hb => ofHandles b (List.mem_cons_of_mem a hb))
      fun before after heq => alone (a :: before) after (by rw [heq]; rfl)

/-- **An exit leaves no lock behind.** In any run of handles, with the server up and nothing arranged:
after a handle took its lock, each of its exits, the one that matches the enter among them, leaves the
lock without the token of the handle, as long as the handle is not entered while it holds the lock. -/
theorem exit_frees_what_was_taken (s : Session) (calm : s.Calm) (isUp : s.isUp = true)
    (before body : List LockStep) (i : Nat) (h : Handle) (pending : Except Failure Unit)
    (ofHandles : ∀ a ∈ before ++ .enter i :: body, a.OfHandles)
    (made : (run ⟨s, []⟩ before).2.handles[i]? = some h)
    (took : (h.enter.perform (run ⟨s, []⟩ before).2.session).1 = .ok true)
    (alone : (run ⟨s, []⟩ (before ++ [.enter i])).2.NeverReenters i h body) :
    ¬ h.manager.Holds h.key h.token
      (run ⟨s, []⟩ (before ++ .enter i :: body ++ [.exit i pending])).2.session := by
  have hstart : Undisturbed ⟨s, []⟩ := ⟨calm, isUp, by simp, by simp⟩
  have hbefore := run_undisturbed hstart fun a ha =>
    ofHandles a (List.mem_append_left (.enter i :: body) ha)
  rw [run_append] at alone
  have hentered := entering_undisturbed hbefore i
  have hknows := entering_taken_remembers made took
  have hbody : ∀ a ∈ body, a.OfHandles := fun a ha => ofHandles a (by simp [ha])
  have hend := run_remembers hentered hknows hbody alone
  have hfree := (exiting_self_frees (run_undisturbed hentered hbody) hend pending).2
  rw [run_append, run_append]
  exact hfree

/-- The first handle of a session that starts, for a second. -/
def firstHandle : Handle := ⟨{}, "k", Action.identifier 1, ⟨1000, by decide⟩, false⟩

/-- Another handle is entered and left inside, and the first is entered again when its lock has run
out. -/
def inside : List LockStep := [.enter 1, .exit 1 (.ok ()), .pass 1001, .enter 0]

theorem exit_frees_after_inside :
    let s : Session := .start false
    let before : List LockStep := [.lock {} "k" (.int 1000), .lock {} "k" (.int 1000)]
    s.Calm ∧ (∀ a ∈ before ++ .enter 0 :: inside, a.OfHandles) ∧
    (run ⟨s, []⟩ (before ++ [.enter 0])).2.NeverReenters 0 firstHandle inside ∧
    ¬ firstHandle.manager.Holds firstHandle.key firstHandle.token
      (run ⟨s, []⟩ (before ++ .enter 0 :: inside ++ [.exit 0 (.ok ())])).2.session := by
  intro s before
  have calm : s.Calm := ⟨rfl, by simp [s, start, Reliable]⟩
  have ofHandles : ∀ a ∈ before ++ .enter 0 :: inside, a.OfHandles := by
    simp [before, inside, LockStep.OfHandles]
  have made : (run ⟨s, []⟩ before).2.handles[0]? = some firstHandle := rfl
  have took : (firstHandle.enter.perform (run ⟨s, []⟩ before).2.session).1 = .ok true := by
    rfl
  have alone : (run ⟨s, []⟩ (before ++ [.enter 0])).2.NeverReenters 0 firstHandle inside := by
    intro early late h
    -- Only the last step enters the first handle.
    have hearly : early = [.enter 1, .exit 1 (.ok ()), .pass 1001] := by
      rcases early with _ | ⟨a, _ | ⟨b, _ | ⟨c, _ | ⟨d, rest⟩⟩⟩⟩ <;> simp_all [inside]
    have hgone : firstHandle.manager.entry firstHandle.key
        ((run ⟨s, []⟩ (before ++ [.enter 0])).2.run early).2.session = none := by
      rw [hearly]
      decide +kernel
    rintro ⟨t, ht⟩
    rw [hgone] at ht
    cases ht
  exact ⟨calm, ofHandles, alone,
    exit_frees_what_was_taken s calm rfl before inside 0 firstHandle (.ok ()) ofHandles made took
      alone⟩

/-! ## Forgetting -/

/-- The exit of a handle that thinks that it holds nothing. -/
theorem exiting_idle (hi : w.handles[i]? = some h) (idle : h.isHolding = false)
    (pending : Except Failure Unit) :
    (w.exiting i pending).2.handles[i]? = some h.left ∧
      (w.exiting i pending).2.session.Alike w.session := by
  have halike := h.exitDuring_alike pending w.session
  rw [if_neg (by simp [idle])] at halike
  unfold exiting
  rw [hi]
  exact ⟨by simp [(List.getElem?_eq_some_iff.mp hi).1], halike⟩

/-- **A handle that is entered again forgets its lock.** It is refused because it holds the lock itself,
and then neither of two exits gives the lock back. -/
theorem reentered_keeps_lock (hi : w.handles[i]? = some h)
    (held : h.manager.Holds h.key h.token w.session)
    (refused : (h.enter.perform w.session).1 = .ok false) (pending pending' : Except Failure Unit) :
    h.manager.Holds h.key h.token
      (w.run [.enter i, .exit i pending, .exit i pending']).2.session := by
  obtain ⟨hfalse, hentered⟩ : (w.entering i).2.handles[i]? = some (h.entered false) ∧
      (w.entering i).2.session.Alike w.session := by
    have hspec := h.manager.take_spec h.key h.token w.session h.ttl
    unfold entering
    rw [hi]
    dsimp only
    rw [refused]
    refine ⟨by simp [(List.getElem?_eq_some_iff.mp hi).1], ?_⟩
    unfold Handle.enter at refused ⊢
    generalize (h.manager.take h.key h.token h.ttl).perform w.session = done at hspec refused ⊢
    cases hspec with
    | failed => cases refused
    | busy _ alike => exact alike
    | taken => cases refused
  obtain ⟨hleft, hfirst⟩ := exiting_idle hfalse rfl pending
  obtain ⟨-, hsecond⟩ := exiting_idle hleft rfl pending'
  have halike := hsecond.trans (hfirst.trans hentered)
  exact (LockManager.holds_congr halike.sameEntries).mpr held

/-- A handle is entered again before it is left, and left twice. -/
def reentered : List LockStep :=
  [.lock {} "k" (.int 1000), .enter 0, .enter 0, .exit 0 (.ok ()), .exit 0 (.ok ())]

/-- The second exit matches the first enter, which took the lock, and leaves it behind. -/
theorem reentered_outlives_exits :
    let w : World := ⟨.start false, []⟩
    w.session.Calm ∧ w.session.isUp = true ∧ (∀ a ∈ reentered, a.OfHandles) ∧
    (w.run [.lock {} "k" (.int 1000)]).2.handles[0]? = some firstHandle ∧
    (firstHandle.enter.perform (w.run [.lock {} "k" (.int 1000)]).2.session).1 = .ok true ∧
    firstHandle.manager.Holds firstHandle.key firstHandle.token (w.run reentered).2.session := by
  intro w
  have hentry : firstHandle.manager.entry firstHandle.key (w.run reentered).2.session =
      some ⟨.string (Utf8.encode firstHandle.token), some (epoch + 1000)⟩ := by decide +kernel
  exact ⟨⟨rfl, by simp [w, start, Reliable]⟩, rfl, by simp [reentered, LockStep.OfHandles], rfl, rfl,
    _, hentry⟩

end World
end Leasehold

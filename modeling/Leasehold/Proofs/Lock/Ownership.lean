import Leasehold.Proofs.Lock.Footprint
import Leasehold.Proofs.Lock.Run

/-!
# A handle gives back what it took

What an exit does follows from the enters and exits of its handle before it, whatever went on with the
store meanwhile.

- **Histories** (`World.history`): the enters of a run with what they came to, and its exits.
- **Owing** (`Owes`): the last enter of a handle that came to an answer took the lock, and no exit came
  after it. It is what the handle remembers (`World.run_accounted`).
- **Exits** (`Handle.Exited`): one that owes gives back, which deletes the lock only while it holds the
  handle's token; one that does not does nothing at all (`World.exit_gives_back_what_was_taken`).
-/

namespace Leasehold

open Session

/-! ## Histories -/

/-- An enter of a handle with what it came to, or an exit. -/
inductive HandleEvent where
  | entered (handle : Nat) (outcome : Except Failure Bool)
  | exited (handle : Nat)

/-- The handle that is entered or left. -/
def HandleEvent.handle : HandleEvent → Nat
  | .entered i _ => i
  | .exited i => i

namespace World

/-- What a step is to the handles. -/
def handled (w : World) : LockStep → List HandleEvent
  | .enter i =>
    match w.handles[i]? with
    | none => []
    | some h => [.entered i (h.enter.perform w.session).1]
  | .exit i _ =>
    match w.handles[i]? with
    | none => []
    | some _ => [.exited i]
  | _ => []

/-- What a run is to the handles. -/
def history (w : World) : List LockStep → List HandleEvent
  | [] => []
  | a :: rest => w.handled a ++ (w.step a).2.history rest

theorem run_append (w : World) (steps more : List LockStep) :
    (w.run (steps ++ more)).2 = ((w.run steps).2.run more).2 := by
  induction steps generalizing w with
  | nil => rfl
  | cons a rest ih => exact ih (w.step a).2

theorem history_append (w : World) (steps more : List LockStep) :
    w.history (steps ++ more) = w.history steps ++ (w.run steps).2.history more := by
  induction steps generalizing w with
  | nil => rfl
  | cons a rest ih =>
    show w.handled a ++ (w.step a).2.history (rest ++ more) = _
    rw [ih, ← List.append_assoc]
    rfl

end World

/-! ## Owing -/

/-- A handle owes an exit: it took the lock, and since then has not been left, and no enter of it came
to an answer. -/
def Owes (i : Nat) (history : List HandleEvent) : Prop :=
  ∃ before after, history = before ++ .entered i (.ok true) :: after ∧
    ∀ e ∈ after, e ≠ .exited i ∧ ∀ b, e ≠ .entered i (.ok b)

theorem not_owes_of_other {i : Nat} {history : List HandleEvent}
    (h : ∀ e ∈ history, e.handle ≠ i) : ¬ Owes i history := by
  rintro ⟨before, after, rfl, -⟩
  exact h (.entered i (.ok true)) (by simp) rfl

theorem owes_concat {i : Nat} {history : List HandleEvent} {e : HandleEvent} :
    Owes i (history ++ [e]) ↔ e = .entered i (.ok true) ∨
      Owes i history ∧ e ≠ .exited i ∧ ∀ b, e ≠ .entered i (.ok b) := by
  constructor
  · rintro ⟨before, after, h, hafter⟩
    rcases List.eq_nil_or_concat after with rfl | ⟨init, last, rfl⟩
    · obtain ⟨-, he⟩ := List.append_inj' h rfl
      exact .inl (by simpa using he)
    · have h' : history ++ [e] = (before ++ .entered i (.ok true) :: init) ++ [last] := by
        simpa using h
      obtain ⟨hinit, he⟩ := List.append_inj' h' rfl
      obtain rfl : e = last := by simpa using he
      exact .inr ⟨⟨before, init, hinit, fun x hx => hafter x (by simp [hx])⟩, hafter e (by simp)⟩
  · rintro (rfl | ⟨⟨before, after, rfl, hafter⟩, he⟩)
    · exact ⟨history, [], rfl, by simp⟩
    · refine ⟨before, after ++ [e], by simp, fun x hx => ?_⟩
      obtain hx | rfl : x ∈ after ∨ x = e := by simpa using hx
      · exact hafter x hx
      · exact he

/-- A handle that was left owes nothing until it is entered again. -/
theorem not_owes_of_left {i : Nat} {before after : List HandleEvent}
    (h : ∀ o, .entered i o ∉ after) : ¬ Owes i (before ++ .exited i :: after) := by
  induction after using List.reverseRecOn with
  | nil => simp [owes_concat]
  | append_singleton init e ih =>
    have hinit : ¬ Owes i (before ++ .exited i :: init) :=
      ih fun o ho => h o (List.mem_append_left _ ho)
    rw [← List.cons_append, ← List.append_assoc, owes_concat]
    rintro (rfl | ⟨howes, -⟩)
    · exact h (.ok true) (by simp)
    · exact hinit howes

/-! ## What a handle remembers -/

/-- The identifier that a session gives out after some others. -/
def Action.identifier (n : Nat) : String := "00000000-0000-4000-8000-" ++ twelveDigits n

/-- Making a handle asks the session for an identifier, and nothing else. -/
theorem LockManager.lock_eq (m : LockManager) (key : String) (ttl : Value) (s : Session) :
    (m.lock key ttl).perform s =
      match m.lifetime ttl with
      | .error f => (.error f, s)
      | .ok p =>
        (.ok ⟨m, key, Action.identifier (s.identifiers + 1), p, false⟩,
          { s with identifiers := s.identifiers + 1 }) := by
  unfold lock Action.freshIdentifier
  rw [Action.perform_bind, Action.perform_ofExcept]
  cases m.lifetime ttl with
  | error f => rfl
  | ok p =>
    dsimp only
    rw [Action.perform_bind, Action.perform_of]
    rfl

namespace World

variable {w : World} {past : List HandleEvent}

/-- Every handle remembers whether it owes, and only handles that exist have been entered or left. -/
structure Accounted (past : List HandleEvent) (w : World) : Prop where
  owes : ∀ i h, w.handles[i]? = some h → (h.isHolding = true ↔ Owes i past)
  made : ∀ e ∈ past, e.handle < w.handles.length

theorem Accounted.same (hw : w.Accounted past) {w' : World} (h : w'.handles = w.handles) :
    w'.Accounted (past ++ []) := by
  obtain ⟨s', handles⟩ := w'
  obtain rfl : handles = w.handles := h
  rw [List.append_nil]
  exact ⟨hw.owes, hw.made⟩

/-- A handle is entered or left, and remembers what the history says with it. -/
theorem Accounted.setting (hw : w.Accounted past) {i : Nat} {h h' : Handle} {e : HandleEvent}
    (hi : w.handles[i]? = some h) (hei : e.handle = i)
    (right : h'.isHolding = true ↔ Owes i (past ++ [e])) (s : Session) :
    (⟨s, w.handles.set i h'⟩ : World).Accounted (past ++ [e]) := by
  have hlt : i < w.handles.length := (List.getElem?_eq_some_iff.mp hi).1
  refine ⟨fun j g hg => ?_, fun e' he' => ?_⟩
  · by_cases hij : i = j
    · subst hij
      obtain rfl : h' = g := by simpa [List.getElem?_set_self hlt] using hg
      exact right
    · rw [List.getElem?_set_ne hij] at hg
      rw [hw.owes j g hg, owes_concat]
      -- An event of one handle says nothing about another.
      have hother : ∀ o, e ≠ .entered j o := by rintro o rfl; exact hij hei.symm
      have hleft : e ≠ .exited j := by rintro rfl; exact hij hei.symm
      simp [hother, hleft]
  · rw [List.length_set]
    obtain he' | rfl : e' ∈ past ∨ e' = e := by simpa using he'
    · exact hw.made e' he'
    · omega

theorem locking_accounted (hw : w.Accounted past) (m : LockManager) (key : String) (ttl : Value) :
    (w.locking m key ttl).Accounted (past ++ []) := by
  unfold locking
  rw [m.lock_eq]
  cases m.lifetime ttl with
  | error f => exact hw.same rfl
  | ok p =>
    rw [List.append_nil]
    refine ⟨fun i h hi => ?_, fun e he => ?_⟩
    · obtain hlt | rfl | hgt := Nat.lt_trichotomy i w.handles.length
      · rw [List.getElem?_append_left hlt] at hi
        exact hw.owes i h hi
      · -- The new handle has a number that no event has.
        have hnew := not_owes_of_other fun e he => Nat.ne_of_lt (hw.made e he)
        obtain rfl : _ = h := by simpa using hi
        simp [hnew]
      · rw [List.getElem?_eq_none (by simp; omega)] at hi
        cases hi
    · have := hw.made e he
      simp
      omega

theorem entering_accounted (hw : w.Accounted past) (i : Nat) :
    (w.entering i).2.Accounted (past ++ w.handled (.enter i)) := by
  simp only [entering, handled]
  cases hi : w.handles[i]? with
  | none => exact hw.same rfl
  | some h =>
    dsimp only
    refine hw.setting hi rfl ?_ _
    rw [owes_concat]
    cases (h.enter.perform w.session).1 with
    | error f => simp [hw.owes i h hi]
    | ok b => cases b <;> simp [Handle.entered]

theorem exiting_accounted (hw : w.Accounted past) (i : Nat) (pending : Except Failure Unit) :
    (w.exiting i pending).2.Accounted (past ++ w.handled (.exit i pending)) := by
  simp only [exiting, handled]
  cases hi : w.handles[i]? with
  | none => exact hw.same rfl
  | some h =>
    refine hw.setting hi rfl ?_ _
    rw [owes_concat]
    simp [Handle.left]

theorem step_accounted (hw : w.Accounted past) (a : LockStep) :
    (w.step a).2.Accounted (past ++ w.handled a) := by
  cases a with
  | lock m key ttl => exact locking_accounted hw m key ttl
  | enter i => exact entering_accounted hw i
  | exit i pending => exact exiting_accounted hw i pending
  | acquire | release | extend | isLocked | owner | wait | pass | happening | expect | arrange
  | transact => exact hw.same rfl

theorem run_accounted (hw : w.Accounted past) (steps : List LockStep) :
    (w.run steps).2.Accounted (past ++ w.history steps) := by
  induction steps generalizing w past with
  | nil => exact hw.same rfl
  | cons a rest ih =>
    have h := ih (step_accounted hw a)
    rw [List.append_assoc] at h
    exact h

theorem accounted_nil (fresh : ∀ h ∈ w.handles, h.isHolding = false) : w.Accounted [] := by
  refine ⟨fun i h hi => ?_, by simp⟩
  have hnew : ¬ Owes i [] := not_owes_of_other (by simp)
  simp [fresh h (List.mem_of_getElem? hi), hnew]

theorem mem_history {steps : List LockStep} {i : Nat} {o : Except Failure Bool}
    (h : .entered i o ∈ w.history steps) : .enter i ∈ steps := by
  induction steps generalizing w with
  | nil => cases h
  | cons a rest ih =>
    obtain h | h := List.mem_append.mp h
    · unfold handled at h
      repeat' split at h
      all_goals simp_all
    · exact List.mem_cons_of_mem a (ih h)

end World

/-! ## Exits -/

/-- How an exit goes while a failure is on its way, if there is one. A handle that owes gives back its
lock: it is deleted if the token holds it, and otherwise nothing changes. The failure that is on its way
goes on, unless giving back fails. A handle that does not owe does nothing. -/
inductive Handle.Exited (h : Handle) (owes : Prop) (pending : Except Failure Unit) (s : Session) :
    Except Failure Unit × Session → Prop where
  | idle (clear : ¬ owes) (nothing : h.exit = pure ()) : Exited h owes pending s (pending, s)
  | gone {t : Session} (owing : owes)
      (asked : (h.manager.release h.key h.token).perform (World.leaving pending s) = (.ok false, t))
      (other : ¬ h.manager.Holds h.key h.token s) (alike : t.Alike s) :
      Exited h owes pending s (pending, { t with handling := s.handling })
  | released {t : Session} (owing : owes)
      (asked : (h.manager.release h.key h.token).perform (World.leaving pending s) = (.ok true, t))
      (held : h.manager.Holds h.key h.token s) (alike : t.Alike (h.manager.withoutEntry h.key s)) :
      Exited h owes pending s (pending, { t with handling := s.handling })
  | failed {f : Failure} {t : Session} (owing : owes)
      (asked : (h.manager.release h.key h.token).perform (World.leaving pending s) = (.error f, t))
      (alike : t.Alike s) :
      Exited h owes pending s (.error f, { t with handling := s.handling })

theorem Handle.exit_of_idle {h : Handle} (hi : h.isHolding = false) : h.exit = pure () := by
  unfold exit
  rw [hi]
  rfl

/-- An exit while a failure is on its way is an exit, and then that failure goes on unless there is a new
one. -/
theorem Handle.perform_exitDuring (h : Handle) (pending : Except Failure Unit) (s : Session) :
    (h.exitDuring pending).perform s =
      match h.exit.perform (World.leaving pending s) with
      | (.ok (), t) => (pending, { t with handling := s.handling })
      | (.error f, t) => (.error f, { t with handling := s.handling }) := rfl

theorem Handle.exitDuring_exited {h : Handle} {owes : Prop} (remembers : h.isHolding = true ↔ owes)
    (pending : Except Failure Unit) (s : Session) :
    h.Exited owes pending s ((h.exitDuring pending).perform s) := by
  have hleaving := World.leaving_alike pending s
  rw [h.perform_exitDuring]
  cases hi : h.isHolding with
  | false =>
    rw [h.exit_of_idle hi]
    exact .idle (by simp [← remembers, hi]) (h.exit_of_idle hi)
  | true =>
    have howes := remembers.mp hi
    have hspec := h.manager.release_spec h.key h.token (World.leaving pending s)
    unfold exit
    rw [if_pos hi, Action.perform_bind]
    rcases hasked : (h.manager.release h.key h.token).perform (World.leaving pending s) with ⟨o, t⟩
    rw [hasked] at hspec
    cases hspec with
    | failed why alike => exact .failed howes hasked (alike.trans hleaving)
    | foreign other alike => exact .gone howes hasked other (alike.trans hleaving)
    | done held alike => exact .released howes hasked held (alike.trans (hleaving.withDatabase _ _))

namespace World

/-- **A handle gives back exactly what it took.** In any run of handles, managers, other clients, clock
and failures: an exit gives back if and only if the last enter of the handle that came to an answer
took the lock and no exit has come since; it deletes the lock only while it holds the token of the
handle, and changes nothing else. After it the handle does nothing until it is entered again, also if
giving back failed. -/
theorem exit_gives_back_what_was_taken (w : World) (steps : List LockStep)
    (fresh : ∀ h ∈ w.handles, h.isHolding = false) (i : Nat) (h : Handle)
    (made : (w.run steps).2.handles[i]? = some h) (pending : Except Failure Unit) :
    let s := (w.run steps).2.session
    h.Exited (Owes i (w.history steps)) pending s ((h.exitDuring pending).perform s) ∧
    ∀ more h', .enter i ∉ more →
      (w.run (steps ++ .exit i pending :: more)).2.handles[i]? = some h' → h'.exit = pure () := by
  have haccount := run_accounted (accounted_nil fresh)
  refine ⟨h.exitDuring_exited ((haccount steps).owes i h made) pending _, fun more h' hmore hi => ?_⟩
  have hclear : ¬ Owes i (w.history (steps ++ .exit i pending :: more)) := by
    rw [history_append, history, handled, made]
    exact not_owes_of_left fun o ho => hmore (mem_history ho)
  have howes := (haccount (steps ++ .exit i pending :: more)).owes i h' hi
  exact Handle.exit_of_idle (by simpa using mt howes.mp hclear)

/-- A lock runs out while its handle is entered, and somebody else takes it. -/
def overtaken : List LockStep :=
  [.lock {} "k" (.int 100), .enter 0, .pass 101, .acquire {} "k" (some "other") (.int 500)]

/-- The exit of a handle that was overtaken gives back, and leaves the lock of the other alone. -/
theorem exit_overtaken :
    let w : World := ⟨.start false, []⟩
    let s := (w.run overtaken).2.session
    ∃ h, (∀ h ∈ w.handles, h.isHolding = false) ∧ (w.run overtaken).2.handles[0]? = some h ∧
      h.isHolding = true ∧ h.Exited (Owes 0 (w.history overtaken)) (.ok ()) s
        ((h.exitDuring (.ok ())).perform s) ∧
      LockManager.entry {} "k" (w.run (overtaken ++ [.exit 0 (.ok ())])).2.session =
        some ⟨.string (Utf8.encode "other"), some (epoch + 601)⟩ := by
  intro w s
  have fresh : ∀ h ∈ w.handles, h.isHolding = false := by simp [w]
  have hholding : (w.run overtaken).2.handles[0]?.map (·.isHolding) = some true := by decide +kernel
  obtain ⟨h, made, hh⟩ := Option.map_eq_some_iff.mp hholding
  exact ⟨h, fresh, made, hh, (exit_gives_back_what_was_taken w overtaken fresh 0 h made (.ok ())).1,
    by decide +kernel⟩

end World
end Leasehold

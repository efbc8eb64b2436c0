import Leasehold.Proofs.Failure.Lost
import Leasehold.Proofs.Lock.Parameter

/-!
# Lock operations put lost connections in the library's own words

Whatever the command of an operation fails with, a caller meets it under the name of the operation: a
lost connection as the failure of this library for it, and everything else as it is.

- **Meeting a failure** (`LockManager.Meets`, `LockCall.Meets`): the server does not answer a command
  of an operation. Waiting issues one command in each of its tries.
- **Taking and comparing** (`LockManager.take_fails_iff`, `LockManager.guarded_fails_iff`,
  `LockManager.tryAt_fails_iff`): they fail with what they meet, and with nothing else.
- **Surfacing** (`LockManager.Surfaces`): how an operation ends whose command meets a failure. All calls
  to a manager, and all enters and exits of handles, end like this
  (`LockManager.lost_connections_surface`).
-/

namespace Leasehold

open Session

variable {α β : Type}

/-! ## Commands -/

/-- A command that the server does not answer fails for that reason. -/
theorem Client.issue_unanswered {c : Client} {p : Point} {effect : Int → Store → Effect} {s : Session}
    {g : Failure} (h : Unanswered p (effect s.clock (s.database c.database)).reply s g) :
    ∃ s', (c.issue p effect).perform s = (.error g, s') := by
  have ha := takeFault_alike s p
  unfold issue
  rw [Action.perform_bind]
  obtain ⟨f, hf, hreach⟩ | ⟨hf, hup, hreach⟩ | ⟨hf, hup, hreach⟩ := Action.reach_cases p s
  all_goals rw [hreach]
  · cases h with
    | arranged fault => rw [hf] at fault; cases fault; exact ⟨_, rfl⟩
    | down fault | refused fault => rw [hf] at fault; cases fault
  · cases h with
    | arranged fault => rw [hf] at fault; cases fault
    | down => exact ⟨_, rfl⟩
    | refused _ isUp => rw [hup] at isUp; cases isUp
  · cases h with
    | arranged fault => rw [hf] at fault; cases fault
    | down _ isUp => rw [hup] at isUp; cases isUp
    | refused _ _ refusal =>
      dsimp only
      rw [Action.perform_of]
      unfold Session.apply
      dsimp only
      rw [ha.clock, ha.database, refusal]
      exact ⟨_, rfl⟩

namespace LockManager

variable (m : LockManager) (key token : String) (s : Session)

/-- The server does not answer a command that is issued in a session. -/
def Meets (p : Point) (effect : Int → Store → Effect) (g : Failure) : Prop :=
  Unanswered p (effect s.clock (s.database m.client.database)).reply s g

variable {m key token s}

/-- When the question of an operation is not answered, nothing that follows it comes about. -/
theorem asked_meets {operation name : String} {p : Point} {effect : Int → Store → Effect}
    {g : Failure} (h : m.Meets s p effect g) (f : Value → Action α) :
    ((Action.surfacing operation (some (m.keyPrefix ++ key)) (m.client.ask p name effect) >>= f).perform
      s).1 = .error (g.surfaced operation (some (m.keyPrefix ++ key))) := by
  obtain ⟨s', hissue⟩ := Client.issue_unanswered h
  rw [Action.perform_bind, Action.perform_surfacing, Client.perform_ask, hissue]
  rfl

/-! ## Operations -/

theorem Took.why {ttl : Period} {done : Except Failure Bool × Session} {f : Failure}
    (h : m.Took key token s ttl done) (hf : done.1 = .error f) :
    m.Fails key s "acquire" .set (m.takeEffect key token ttl) f := by
  cases h with
  | failed why => cases hf; exact why
  | busy | taken => cases hf

theorem Guarded.why {operation : String} {script : Script} {after : Session}
    {done : Except Failure Bool × Session} {f : Failure}
    (h : m.Guarded key token s operation script after done) (hf : done.1 = .error f) :
    m.Fails key s operation .script
      (fun now d => script.send now d (Utf8.encode (m.keyPrefix ++ key)) (Utf8.encode token)) f := by
  cases h with
  | failed why => cases hf; exact why
  | foreign | done => cases hf

theorem Looked.why {right : α → Prop} {wrong : Failure → Prop} {done : Except Failure α × Session}
    {f : Failure} (h : Looked s right wrong done) (hf : done.1 = .error f) : wrong f := by
  cases h with
  | failed why => cases hf; exact why
  | answered => cases hf

theorem take_fails_iff {ttl : Period} {f : Failure} :
    ((m.take key token ttl).perform s).1 = .error f ↔
      ∃ g, m.Meets s .set (m.takeEffect key token ttl) g ∧
        f = g.surfaced "acquire" (some (m.keyPrefix ++ key)) := by
  constructor
  · exact (m.take_spec key token s ttl).why
  · rintro ⟨g, hg, rfl⟩
    exact asked_meets hg _

/-- What is said in the log after an operation does not make it fail. -/
theorem reported_error {a : Action α} {b : α → String} {f : Failure} :
    ((do let x ← a; Action.report .debug (b x); return x : Action α).perform s).1 = .error f ↔
      (a.perform s).1 = .error f := by
  rw [Action.perform_bind]
  rcases a.perform s with ⟨_ | x, s'⟩
  · exact Iff.rfl
  · constructor <;> intro h <;> cases h

theorem guarded_fails_iff {operation : String} {script : Script} {f : Failure} :
    ((m.guarded operation key token script).perform s).1 = .error f ↔
      ∃ g, m.Meets s .script
          (fun now d => script.send now d (Utf8.encode (m.keyPrefix ++ key)) (Utf8.encode token)) g ∧
        f = g.surfaced operation (some (m.keyPrefix ++ key)) := by
  constructor
  · exact (m.guarded_spec key token s operation script).why
  · rintro ⟨g, hg, rfl⟩
    exact asked_meets hg _

/-- The first try is made at once. -/
theorem first_try_mem {ttl : Period} {instants : List Int} :
    s ∈ (m.tryAt key token ttl instants s).tries := by
  cases instants with
  | nil => exact List.mem_cons_self
  | cons =>
    unfold tryAt
    dsimp only
    split <;> exact List.mem_cons_self

/-- Tries fail with what one of them fails with. -/
theorem tryAt_fails_iff {ttl : Period} {instants : List Int} {f : Failure} :
    (m.tryAt key token ttl instants s).outcome = .error f ↔
      ∃ a ∈ (m.tryAt key token ttl instants s).tries,
        ((m.take key token ttl).perform a).1 = .error f := by
  constructor
  · intro h
    obtain ⟨before, last, htries, htake⟩ := @tryAt_last m key token ttl instants s
    refine ⟨last, by simp [htries], ?_⟩
    rw [htake]
    exact h
  · rintro ⟨a, ha, hfails⟩
    -- A try after which others come was answered, so the one that fails is the last.
    induction instants generalizing s with
    | nil =>
      obtain rfl : a = s := by simpa [tryAt] using ha
      exact hfails
    | cons instant later ih =>
      unfold tryAt at ha ⊢
      rcases htake : (m.take key token ttl).perform s with ⟨g | _ | _, s'⟩
      all_goals rw [htake] at ha
      · obtain rfl : a = s := by simpa using ha
        rw [htake] at hfails
        exact hfails
      · obtain rfl | hlater : a = s ∨ a ∈ (m.tryAt key token ttl later (s'.passTo instant)).tries := by
          simpa using ha
        · rw [htake] at hfails; cases hfails
        · exact ih hlater
      · obtain rfl : a = s := by simpa using ha
        rw [htake] at hfails; cases hfails

end LockManager

/-! ## Calls -/

/-- How failures name an operation: waiting is a sequence of acquisitions. -/
def LockOperation.name : LockOperation → String
  | .acquire .. | .wait .. => "acquire"
  | .release _ => "release"
  | .extend .. => "extend"
  | .isLocked => "is_locked"
  | .owner => "current_owner_token"

/-- The key of the store that a call is about. -/
def LockCall.storeKey (c : LockCall) : String := c.manager.keyPrefix ++ c.key

/-- The server does not answer a command that a call issues when it is made in a session. -/
def LockCall.Meets (c : LockCall) (s : Session) (g : Failure) : Prop :=
  let m := c.manager
  let k := Utf8.encode c.storeKey
  match c.operation with
  | .acquire token ttl =>
    ∃ p, m.lifetime ttl = .ok p ∧ m.Meets s .set (m.takeEffect c.key (LockManager.tokenAt token s) p) g
  | .release token =>
    m.Meets s .script (fun now d => Script.delete.send now d k (Utf8.encode token)) g
  | .extend token ttl =>
    ∃ p, Parameter.period "additional_ttl_ms" ttl = .ok p ∧
      m.Meets s .script (fun now d => (Script.expire p.val).send now d k (Utf8.encode token)) g
  | .isLocked => m.Meets s .count (fun now d => Command.run now d (.count [k])) g
  | .owner => m.Meets s .get (fun now d => Command.run now d (.get k)) g
  | .wait token ttl interval timeout =>
    ∃ plan, m.waitPlan .seconds ttl interval timeout = .ok plan ∧
      ∃ a ∈ (m.tryAt c.key (LockManager.tokenAt token s) plan.1
          (LockManager.paceInstants s.clock plan.2.1 plan.2.2) s).tries,
        m.Meets a .set (m.takeEffect c.key (LockManager.tokenAt token s) plan.1) g

/-- The failures of a call itself: a parameter that is refused, an owner's token that is no text, or a
wait for too long. -/
inductive LockCall.Own (c : LockCall) : Failure → Prop where
  | refused {f : Failure} (broken : ParameterRule.Refused c.rules f) : Own c f
  | illegible {f : Failure} (owner : c.operation = .owner) (kind : f.kind = .encoding) : Own c f
  | overlong (h : c.Overlong) : Own c Timer.overflow

theorem LockCall.Own.connected {c : LockCall} {f : Failure} (h : c.Own f) :
    f.isConnectivity = false := by
  cases h with
  | refused broken => exact broken.connected
  | illegible _ kind => unfold Failure.isConnectivity; rw [kind]; rfl
  | overlong => rfl

namespace LockManager

/-- How an operation on a key of the store ends whose commands meet certain failures, and that has
certain failures of its own. -/
structure Surfaces (operation key : String) (meets own : Failure → Prop)
    (outcome : Except Failure α) : Prop where
  /-- A lost connection arrives under the name of the operation, with the failure behind it. -/
  lost : ∀ g inner, meets g → g.Lost inner →
    outcome = .error ((Failure.of (.storeUnavailable operation (some key) (some inner.text))).because
      inner)
  /-- Any other failure of a command arrives as it is. -/
  kept : ∀ g, meets g → (∀ inner, ¬ g.Lost inner) → outcome = .error g
  /-- No failure of the connection arrives as it is. -/
  clean : ∀ f, outcome = .error f → f.isConnectivity = false
  /-- There are no other failures than those of the commands and its own. -/
  only : ∀ f, outcome = .error f → (∃ g, meets g ∧ f = g.surfaced operation (some key)) ∨ own f

variable {operation key : String} {meets own : Failure → Prop} {outcome : Except Failure α}

/-- It is enough that the operation fails with what its commands meet, in the library's own words. -/
theorem Surfaces.of_arrives (unlike : ∀ f, own f → f.isConnectivity = false)
    (arrives : ∀ g, meets g → outcome = .error (g.surfaced operation (some key)))
    (only : ∀ f, outcome = .error f →
      (∃ g, meets g ∧ f = g.surfaced operation (some key)) ∨ own f) :
    Surfaces operation key meets own outcome where
  lost g inner hg lost := by rw [arrives g hg, Failure.surfaced_of_lost lost]; rfl
  kept g hg kept := by rw [arrives g hg, Failure.surfaced_of_kept kept]
  clean f hf := by
    obtain ⟨g, -, rfl⟩ | hown := only f hf
    · exact g.isConnectivity_surfaced ..
    · exact unlike f hown
  only := only

theorem Surfaces.of_iff (unlike : ∀ f, own f → f.isConnectivity = false)
    (h : ∀ f, outcome = .error f ↔ ∃ g, meets g ∧ f = g.surfaced operation (some key)) :
    Surfaces operation key meets own outcome :=
  .of_arrives unlike (fun g hg => (h _).mpr ⟨g, hg, rfl⟩) fun f hf => .inl ((h f).mp hf)

/-- Without its terms in order an operation issues no command, and is refused. -/
theorem Surfaces.of_terms {τ : Type} {terms : Except Failure τ} {meets : τ → Failure → Prop}
    (unlike : ∀ f, own f → f.isConnectivity = false)
    (agreed : ∀ t, terms = .ok t → Surfaces operation key (meets t) own outcome)
    (refused : ∀ f, terms = .error f → own f ∧ outcome = .error f) :
    Surfaces operation key (fun g => ∃ t, terms = .ok t ∧ meets t g) own outcome := by
  cases terms with
  | ok t =>
    have hmeets : (fun g => ∃ t', (.ok t : Except Failure τ) = .ok t' ∧ meets t' g) = meets t := by
      funext g
      simp
    rw [hmeets]
    exact agreed t rfl
  | error f =>
    obtain ⟨hown, rfl⟩ := refused f rfl
    refine .of_arrives unlike (fun g ⟨_, h, _⟩ => nomatch h) fun _ h => ?_
    cases h
    exact .inr hown

theorem Surfaces.map (h : Surfaces operation key meets own outcome) (f : α → β) :
    Surfaces operation key meets own (outcome.map f) := by
  have hmap : ∀ g, outcome.map f = .error g ↔ outcome = .error g := by
    intro g
    cases outcome <;> simp [Except.map]
  exact ⟨fun g inner hg hlost => (hmap _).mpr (h.lost g inner hg hlost),
    fun g hg hkept => (hmap _).mpr (h.kept g hg hkept), fun g hg => h.clean g ((hmap g).mp hg),
    fun g hg => h.only g ((hmap g).mp hg)⟩

variable (m : LockManager) (key token : String) (s : Session)

theorem take_surfaces (ttl : Period) (own : Failure → Prop)
    (unlike : ∀ f, own f → f.isConnectivity = false) :
    Surfaces "acquire" (m.keyPrefix ++ key)
      (m.Meets s .set (m.takeEffect key token ttl)) own
      ((m.take key token ttl).perform s).1 :=
  .of_iff unlike fun _ => take_fails_iff

theorem acquire_surfaces (token : Option String) (ttl : Value) :
    let c : LockCall := ⟨m, key, .acquire token ttl⟩
    Surfaces "acquire" c.storeKey (c.Meets s) c.Own ((m.acquire key token ttl).perform s).1 := by
  intro c
  rw [acquire_eq]
  refine .of_terms (fun _ => LockCall.Own.connected) (fun p hp => ?_) fun f hf => ?_
  · rw [hp]
    exact m.take_surfaces key (tokenAt token s) s p _ fun _ => LockCall.Own.connected
  · rw [hf]
    exact ⟨.refused (m.lifetime_refused_iff.mp hf), rfl⟩

theorem release_surfaces :
    let c : LockCall := ⟨m, key, .release token⟩
    Surfaces "release" c.storeKey (c.Meets s) c.Own ((m.release key token).perform s).1 :=
  .of_iff (fun _ => LockCall.Own.connected) fun _ => reported_error.trans guarded_fails_iff

theorem extend_surfaces (ttl : Value) :
    let c : LockCall := ⟨m, key, .extend token ttl⟩
    Surfaces "extend" c.storeKey (c.Meets s) c.Own ((m.extend key token ttl).perform s).1 := by
  intro c
  refine .of_terms (fun _ => LockCall.Own.connected) (fun p hp => ?_) fun f hf => ?_
  · unfold extend
    rw [Action.perform_bind, Action.perform_ofExcept, hp]
    exact .of_iff (fun _ => LockCall.Own.connected) fun _ => reported_error.trans guarded_fails_iff
  · rw [extend_refused m key token s hf]
    exact ⟨.refused ((ParameterRule.refused_single_iff (Parameter.period_follows ..)).mp hf), rfl⟩

theorem isLocked_surfaces :
    let c : LockCall := ⟨m, key, .isLocked⟩
    Surfaces "is_locked" c.storeKey (c.Meets s) c.Own ((m.isLocked key).perform s).1 :=
  .of_arrives (fun _ => LockCall.Own.connected)
    (fun g (hg : m.Meets s _ _ g) => asked_meets hg _) fun _ hf =>
      .inl ((m.isLocked_spec key s).why hf)

theorem owner?_surfaces :
    let c : LockCall := ⟨m, key, .owner⟩
    Surfaces "current_owner_token" c.storeKey (c.Meets s) c.Own ((m.owner? key).perform s).1 := by
  intro c
  refine .of_arrives (fun _ => LockCall.Own.connected)
    (fun g (hg : m.Meets s _ _ g) => asked_meets hg _) fun f hf => ?_
  obtain hfails | ⟨b, t, e, -, -, rfl⟩ := (m.owner?_spec key s).why hf
  · exact .inl hfails
  · exact .inr (.illegible rfl rfl)

theorem wait_surfaces (token : Option String) (ttl interval timeout : Value) :
    let c : LockCall := ⟨m, key, .wait token ttl interval timeout⟩
    Surfaces "acquire" c.storeKey (c.Meets s) c.Own
      ((m.wait key token ttl interval timeout).perform s).1 := by
  intro c
  rw [wait_eq]
  refine .of_terms (fun _ => LockCall.Own.connected) (fun plan hplan => ?_) fun f hf => ?_
  · obtain ⟨p, pace, t⟩ := plan
    rw [hplan]
    dsimp only
    have hstopped := m.stopped_cases key pace t 0 t
      (m.tryAt key (tokenAt token s) p (paceInstants s.clock pace t) s)
    refine .of_arrives (fun _ => LockCall.Own.connected) ?_ fun f hf => ?_
    · rintro g ⟨a, ha, hg⟩
      have hfails := tryAt_fails_iff.mpr ⟨a, ha, take_fails_iff.mpr ⟨g, hg, rfl⟩⟩
      obtain hended | ⟨_, -, hbusy, -⟩ := hstopped
      · rw [hended, (m.ended_eq key t 0 _).1]
        exact hfails
      · rw [hfails] at hbusy
        cases hbusy
    · obtain hended | ⟨g, hpace, -, hdone⟩ := hstopped
      · rw [hended, (m.ended_eq key t 0 _).1] at hf
        obtain ⟨a, ha, hfails⟩ := tryAt_fails_iff.mp hf
        obtain ⟨g, hg, rfl⟩ := take_fails_iff.mp hfails
        exact .inl ⟨g, ⟨a, ha, hg⟩, rfl⟩
      · rw [hdone] at hf
        cases hf
        obtain ⟨i, htimes, hi⟩ := waitPlan_eq_ok hplan
        obtain ⟨rfl, hcounts⟩ := Timer.seconds_error (Timer.error_of_pace (hi.symm.trans hpace))
        exact .inr (.overlong ⟨p, i, t, htimes, fun h => hcounts h.1⟩)
  · rw [hf]
    refine ⟨?_, rfl⟩
    obtain hrefused | ⟨⟨p, i, t⟩, htimes, htimer⟩ := waitPlan_eq_error hf
    · exact .refused (m.waitTimes_refused_iff.mp hrefused)
    · obtain ⟨rfl, hcounts⟩ := Timer.seconds_error htimer
      exact .overlong ⟨p, i, t, htimes, fun h => hcounts h.2⟩

theorem call_surfaces (c : LockCall) :
    Surfaces c.operation.name c.storeKey (c.Meets s) c.Own (c.action.perform s).1 := by
  obtain ⟨m, key, operation⟩ := c
  unfold LockCall.action
  cases operation <;> dsimp only <;> rw [Action.perform_bind_pure]
  case acquire token ttl => exact (m.acquire_surfaces key s token ttl).map _
  case release token => exact (m.release_surfaces key token s).map _
  case extend token ttl => exact (m.extend_surfaces key token s ttl).map _
  case isLocked => exact (m.isLocked_surfaces key s).map _
  case owner => exact (m.owner?_surfaces key s).map _
  case wait token ttl interval timeout =>
    exact (m.wait_surfaces key s token ttl interval timeout).map _

end LockManager

/-! ## Handles -/

/-- The exit of a handle that holds its lock is a release of it. -/
theorem Handle.exit_surfaces {h : Handle} (holding : h.isHolding = true) (s : Session) :
    let c : LockCall := ⟨h.manager, h.key, .release h.token⟩
    LockManager.Surfaces "release" c.storeKey (c.Meets s) c.Own (h.exit.perform s).1 := by
  intro c
  unfold exit
  rw [if_pos holding, Action.perform_bind_pure]
  exact (h.manager.release_surfaces h.key h.token s).map _

/-- **Lost connections surface, and nothing else does.** Put in the library's own words, an action ends
as it did, except that a lost connection becomes the failure of this library for it, because of the
failure of the connection. So no call to a manager, no try of a wait, and no enter or exit of a handle
ends with a failure of the connection, whatever their commands fail with: a lost connection arrives
under the name of the operation and with the key of the store. -/
theorem LockManager.lost_connections_surface :
    (∀ (α : Type) (operation : String) (key : Option String) (a : Action α) (s : Session),
      let done := (Action.surfacing operation key a).perform s
      (∀ x s', a.perform s = (.ok x, s') → done = (.ok x, s')) ∧
      ∀ f s', a.perform s = (.error f, s') →
        (∀ inner, f.Lost inner → done = (.error
          ((Failure.of (.storeUnavailable operation key (some inner.text))).because inner), s')) ∧
        ((∀ inner, ¬ f.Lost inner) → done = (.error f, s')) ∧
        (f.isA .system = true ∨ f.kind = .cancelled → done = (.error f, s'))) ∧
    (∀ (c : LockCall) (s : Session),
      Surfaces c.operation.name c.storeKey (c.Meets s) c.Own (c.action.perform s).1) ∧
    (∀ (h : Handle) (s : Session),
      Surfaces "acquire" (h.manager.keyPrefix ++ h.key)
        (h.manager.Meets s .set (h.manager.takeEffect h.key h.token h.ttl))
        (fun _ => False) (h.enter.perform s).1) ∧
    ∀ (h : Handle) (s : Session) (pending : Except Failure Unit), h.isHolding = true →
      let release : LockCall := ⟨h.manager, h.key, .release h.token⟩
      let exited := (h.exit.perform (World.leaving pending s)).1
      Surfaces "release" release.storeKey (release.Meets (World.leaving pending s)) release.Own
        exited ∧
      ∀ f, exited = .error f → ((h.exitDuring pending).perform s).1 = .error f := by
  refine ⟨fun α operation key a s => ?_, fun c s => call_surfaces s c,
    fun h s => h.manager.take_surfaces h.key h.token s h.ttl _ fun _ hf => hf.elim,
    fun h s pending holding => ⟨h.exit_surfaces holding _, fun f hf => ?_⟩⟩
  · intro done
    have hdone : done = ((a.perform s).1.mapError (·.surfaced operation key), (a.perform s).2) :=
      Action.perform_surfacing operation key a s
    rw [hdone]
    refine ⟨fun x s' ha => by rw [ha]; rfl, fun f s' ha => ?_⟩
    rw [ha]
    have hkept : (∀ inner, ¬ f.Lost inner) →
        ((.error f : Except Failure α).mapError (·.surfaced operation key), s') = (.error f, s') :=
      fun kept => by rw [Except.mapError, Failure.surfaced_of_kept kept]
    refine ⟨fun inner lost => ?_, hkept, fun hforeign => hkept (Failure.kept_of_foreign hforeign)⟩
    rw [Except.mapError, Failure.surfaced_of_lost lost]
    rfl
  · rw [Handle.perform_exitDuring]
    rcases hexit : h.exit.perform (World.leaving pending s) with ⟨o, t⟩
    rw [hexit] at hf
    obtain rfl : o = .error f := hf
    rfl

/-- A connection that breaks under a watch during a wait, and a connection of another kind that breaks
while a handle is left. -/
theorem LockManager.lost_connections_surface_brokenWatch :
    let dropped := Failure.plain .storeTimeout "slow"
    let broken := (Failure.plain .watch "gone").because dropped
    let foreign := Failure.plain .connection "peer"
    let m : LockManager := {}
    let s := ((Session.start false).arrange .set [some broken]).arrange .script [some foreign]
    (((LockCall.mk m "job" (.wait (some "me") .null .null (.int 0))).action.perform s).1 =
      .error ((Failure.of (.storeUnavailable "acquire" (some "job") (some "slow"))).because
        dropped)) ∧
    (((Handle.mk m "job" "me" ⟨5, by decide⟩ true).exitDuring (.ok ())).perform s).1 =
      .error foreign := by
  intro dropped broken foreign m s
  have hcall := lost_connections_surface.2.1 ⟨m, "job", .wait (some "me") .null .null (.int 0)⟩ s
  have hexit := lost_connections_surface.2.2.2 ⟨m, "job", "me", ⟨5, by decide⟩, true⟩ s (.ok ()) rfl
  constructor
  · exact hcall.lost broken dropped ⟨_, rfl, s, first_try_mem, .arranged rfl⟩
      (.cause rfl rfl rfl)
  · exact hexit.2 foreign (hexit.1.kept foreign (.arranged rfl)
      (Failure.kept_of_foreign (.inl rfl)))

end Leasehold

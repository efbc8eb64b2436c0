import Leasehold.Proofs.Session.Arranged

/-!
# Actions on one key

What an action that is about one key can see and change, when nothing else goes on.

- **Effects on one key** (`Effect.OnKey`): the reply and the new entry depend on the old entry of that
  key, and all other entries stay.
- **Calm sessions** (`Session.Calm`): no event is to come and no failure is arranged.
- **Sessions that agree** on some keys (`Session.AgreeOn`): the same instant, the same server and the
  same entries of these keys.
- **Confined actions** (`Action.Confined`): among keys with its own, an action goes the same way in
  sessions that agree; for all other keys it only lets time pass. Sequences of confined actions are
  confined (`Action.Confined.bind`), so an operation is when the commands that it issues are on its key
  (`Action.Confined.issue`).
-/

namespace Leasehold

open Session

/-! ## Effects on one key -/

theorem Store.live_congr {d d' : Store} {k : Bytes} (h : d.find? k = d'.find? k) (now : Int) :
    d.live now k = d'.live now k := by
  unfold live
  rw [h]

namespace Effect

/-- An effect that depends on the entry of one key and changes no other. -/
structure OnKey (k : Bytes) (effect : Int → Store → Effect) : Prop where
  spared : ∀ now d, ∀ l ≠ k, (effect now d).store.find? l = d.find? l
  congr : ∀ now d d', d.find? k = d'.find? k →
    (effect now d).reply = (effect now d').reply ∧
      (effect now d).store.find? k = (effect now d').store.find? k

variable {k : Bytes}

theorem OnKey.sending {effect : Int → Store → Effect} (h : OnKey k effect) (n : Int) :
    OnKey k fun now d => sending n d (effect now d) where
  spared now d l hl := by
    unfold Effect.sending
    split
    · exact h.spared now d l hl
    · rfl
  congr now d d' hd := by
    unfold Effect.sending
    split
    · exact h.congr now d d' hd
    · exact ⟨rfl, hd⟩

theorem onKey_setIfAbsent (v : Bytes) (ms : Int) :
    OnKey k fun now d => (Command.set k v (some ms) .ifAbsent).run now d where
  spared now d l hl := by
    simp only [Command.run, Command.runSet]
    repeat' split
    all_goals simp [refuse, answer, Store.find?_put, hl]
  congr now d d' h := by
    simp only [Command.run, Command.runSet, Store.live_congr h now]
    repeat' split
    all_goals simp [refuse, answer, Store.find?_put, h]

theorem onKey_count : OnKey k fun now d => (Command.count [k]).run now d where
  spared _ _ _ _ := rfl
  congr now d d' h := by
    simp [Command.run, answer, Store.live_congr h now, h]

theorem onKey_get : OnKey k fun now d => (Command.get k).run now d where
  spared now d l _ := by
    simp only [Command.run]
    split <;> rfl
  congr now d d' h := by
    simp only [Command.run, Store.live_congr h now]
    split <;> exact ⟨rfl, h⟩

theorem onKey_script (token : Bytes) (script : Script) :
    OnKey k fun now d => script.run now d k token where
  spared now d l hl := by
    cases script
    all_goals
      simp only [Script.run, Command.run, Command.deleteAll]
      repeat' split
    all_goals simp [refuse, answer, Store.find?_put, Store.find?_erase, hl]
  congr now d d' h := by
    cases script
    all_goals
      simp only [Script.run, Command.run, Command.deleteAll, Store.live_congr h now]
      repeat' split
    all_goals simp [refuse, answer, Store.find?_put, Store.find?_erase, h]

theorem onKey_send (token : Bytes) (script : Script) :
    OnKey k fun now d => script.send now d k token := by
  cases script with
  | delete => exact onKey_script token .delete
  | expire ms => exact (onKey_script token (.expire ms)).sending ms

end Effect

/-! ## Sessions that agree -/

namespace Session

variable {keys : Set Bytes} {s t u : Session}

/-- No event is to come, and no failure is arranged. -/
structure Calm (s : Session) : Prop where
  events : s.events = []
  reliable : ∀ p, s.Reliable p

/-- Two sessions at the same instant, with the same server and the same entries of some keys. -/
structure AgreeOn (keys : Set Bytes) (s t : Session) : Prop where
  clock : s.clock = t.clock
  isUp : s.isUp = t.isUp
  handling : s.handling = t.handling
  entry : ∀ n, ∀ k ∈ keys, (s.database n).find? k = (t.database n).find? k

theorem AgreeOn.refl (keys : Set Bytes) (s : Session) : AgreeOn keys s s :=
  ⟨rfl, rfl, rfl, fun _ _ _ => rfl⟩

theorem AgreeOn.symm (h : AgreeOn keys s t) : AgreeOn keys t s :=
  ⟨h.clock.symm, h.isUp.symm, h.handling.symm, fun n k hk => (h.entry n k hk).symm⟩

theorem AgreeOn.trans (h₁ : AgreeOn keys s t) (h₂ : AgreeOn keys t u) : AgreeOn keys s u :=
  ⟨h₁.clock.trans h₂.clock, h₁.isUp.trans h₂.isUp, h₁.handling.trans h₂.handling,
    fun n k hk => (h₁.entry n k hk).trans (h₂.entry n k hk)⟩

/-- A session at another instant. -/
def atClock (s : Session) (instant : Int) : Session := { s with clock := instant }

theorem AgreeOn.atClock (h : AgreeOn keys s t) (instant : Int) :
    AgreeOn keys (s.atClock instant) (t.atClock instant) := ⟨rfl, h.isUp, h.handling, h.entry⟩

/-- In a calm session, time that passes changes the clock alone. -/
theorem Calm.passTo_eq (h : s.Calm) (instant : Int) : s.passTo instant = s.atClock instant := by
  obtain ⟨clock, isUp, databases, faults, events⟩ := s
  obtain rfl : events = [] := h.events
  rfl

theorem Calm.atClock (h : s.Calm) (instant : Int) : (s.atClock instant).Calm := ⟨h.events, h.reliable⟩

theorem report_eq (s : Session) (level : Level) (message : String) :
    ∃ log, s.report level message = { s with log } := by
  unfold report
  split
  · exact ⟨_, rfl⟩
  · exact ⟨s.log, rfl⟩

end Session

/-! ## Confined actions -/

namespace Action

variable {α β : Type} {k : Bytes}

/-- An action that sees and changes the entry of one key alone. -/
structure Confined (k : Bytes) (a : Action α) : Prop where
  calm : ∀ s : Session, s.Calm → (a.perform s).2.Calm
  /-- Where the key has the same entry, all goes the same way. -/
  alike : ∀ (keys : Set Bytes) (s t : Session), k ∈ keys → s.Calm → t.Calm → AgreeOn keys s t →
    (a.perform s).1 = (a.perform t).1 ∧ AgreeOn keys (a.perform s).2 (a.perform t).2
  /-- For other keys, only time passes. -/
  elsewhere : ∀ (keys : Set Bytes) (s : Session), k ∉ keys → s.Calm →
    s.clock ≤ (a.perform s).2.clock ∧
      AgreeOn keys (a.perform s).2 (s.atClock (a.perform s).2.clock)

namespace Confined

/-- An action that changes nothing that sessions agree on, and ends in the same way wherever they
do. -/
theorem of_still {a : Action α} (calm : ∀ s : Session, s.Calm → (a.perform s).2.Calm)
    (ending : ∀ s t : Session, s.clock = t.clock → (a.perform s).1 = (a.perform t).1)
    (still : ∀ (keys : Set Bytes) (s : Session), AgreeOn keys (a.perform s).2 s) :
    Confined k a where
  calm := calm
  alike keys s t _ _ _ h :=
    ⟨ending s t h.clock, (still keys s).trans (h.trans (still keys t).symm)⟩
  elsewhere keys s _ _ := by
    have h := still keys s
    refine ⟨Int.le_of_eq h.clock.symm, ?_⟩
    rw [h.clock]
    exact h

theorem pure (x : α) : Confined k (Pure.pure x : Action α) :=
  of_still (fun _ h => h) (fun _ _ _ => rfl) fun keys s => .refl keys s

theorem ofExcept (e : Except Failure α) : Confined k (Action.ofExcept e) :=
  of_still (fun _ h => h) (fun _ _ _ => rfl) fun keys s => .refl keys s

theorem report (level : Level) (message : String) : Confined k (Action.report level message) := by
  refine of_still (fun s h => ?_) (fun _ _ _ => rfl) fun keys s => ?_
  all_goals
    rw [perform_report]
    obtain ⟨log, hlog⟩ := s.report_eq level message
    dsimp only
    rw [hlog]
  · exact ⟨h.events, h.reliable⟩
  · exact ⟨rfl, rfl, rfl, fun _ _ _ => rfl⟩

theorem sleep (ms : Nat) : Confined k (Action.sleep ms) where
  calm s h := by
    rw [perform_sleep, Session.pass, h.passTo_eq]
    exact h.atClock _
  alike keys s t _ hs ht h := by
    simp only [perform_sleep, Session.pass, hs.passTo_eq, ht.passTo_eq, h.clock]
    exact ⟨trivial, h.atClock _⟩
  elsewhere keys s _ hs := by
    simp only [perform_sleep, Session.pass, hs.passTo_eq]
    exact ⟨Int.le_add_of_nonneg_right (Int.natCast_nonneg ms), .refl keys _⟩

theorem bind {a : Action α} {f : α → Action β} (ha : Confined k a) (hf : ∀ x, Confined k (f x)) :
    Confined k (a >>= f) where
  calm s hs := by
    have hcalm := ha.calm s hs
    rw [perform_bind]
    rcases hdone : a.perform s with ⟨e | x, s'⟩
    all_goals rw [hdone] at hcalm
    · exact hcalm
    · exact (hf x).calm s' hcalm
  alike keys s t hk hs ht h := by
    obtain ⟨hsame, hagree⟩ := ha.alike keys s t hk hs ht h
    have hcs := ha.calm s hs
    have hct := ha.calm t ht
    rw [perform_bind, perform_bind]
    rcases hdone : a.perform s with ⟨e | x, s'⟩
    all_goals
      rw [hdone] at hsame hagree hcs
      rcases hdone' : a.perform t with ⟨e' | x', t'⟩
      all_goals
        rw [hdone'] at hsame hagree hct
        cases hsame
    · exact ⟨rfl, hagree⟩
    · exact (hf x).alike keys s' t' hk hcs hct hagree
  elsewhere keys s hk hs := by
    obtain ⟨hle, hagree⟩ := ha.elsewhere keys s hk hs
    have hcs := ha.calm s hs
    rw [perform_bind]
    rcases hdone : a.perform s with ⟨e | x, s'⟩
    all_goals rw [hdone] at hle hagree hcs
    · exact ⟨hle, hagree⟩
    · obtain ⟨hle', hagree'⟩ := (hf x).elsewhere keys s' hk hcs
      exact ⟨Int.le_trans hle hle', hagree'.trans (hagree.atClock _)⟩

theorem surfacing {a : Action α} (ha : Confined k a) (operation : String) (key : Option String) :
    Confined k (Action.surfacing operation key a) where
  calm s hs := by
    rw [perform_surfacing]
    exact ha.calm s hs
  alike keys s t hk hs ht h := by
    obtain ⟨hsame, hagree⟩ := ha.alike keys s t hk hs ht h
    rw [perform_surfacing, perform_surfacing, hsame]
    exact ⟨rfl, hagree⟩
  elsewhere keys s hk hs := by
    rw [perform_surfacing]
    exact ha.elsewhere keys s hk hs

end Confined

end Action

/-! ## Commands -/

namespace Client

variable {k : Bytes} {effect : Int → Store → Effect} (c : Client) (p : Point)

/-- What the server makes of a command: it has its effect, or it does not arrive. -/
def served (effect : Int → Store → Effect) (s : Session) : Except Failure Reply × Session :=
  if s.isUp then
    let e := effect s.clock (s.database c.database)
    (match e.reply with
      | .ok r => .ok r
      | .error why => .error (.ofRefusal why),
      s.withDatabase c.database e.store)
  else (.error (Action.unreachable.during s.handling), s)

/-- In a calm session nothing comes between a command and the server. -/
theorem perform_issue {s : Session} (hs : s.Calm) :
    (c.issue p effect).perform s = c.served effect (s.takeFault p).2 := by
  have hfault : (s.takeFault p).1 = none := (Quiet.refl s).takeFault_none (hs.reliable p)
  unfold issue served
  rw [Action.perform_bind]
  obtain ⟨f, hf, -⟩ | ⟨-, hup, h⟩ | ⟨-, hup, h⟩ := Action.reach_cases p s
  · rw [hfault] at hf
    cases hf
  · rw [h, if_neg (show ¬ (s.takeFault p).2.isUp = true from ne_true_of_eq_false hup)]
    rfl
  · rw [h, if_pos (show (s.takeFault p).2.isUp = true from hup)]
    dsimp only
    rw [Action.perform_of]
    unfold Session.apply
    dsimp only
    split <;> simp_all

end Client

namespace Session

variable {keys : Set Bytes} {s t : Session} {k : Bytes} {effect : Int → Store → Effect}

theorem takeFault_agree (keys : Set Bytes) (s : Session) (p : Point) :
    AgreeOn keys (s.takeFault p).2 s := ⟨rfl, rfl, rfl, fun _ _ _ => rfl⟩

theorem Calm.takeFault (h : s.Calm) (p : Point) : (s.takeFault p).2.Calm :=
  ⟨h.events, fun q f hf => h.reliable q f (takeFrom_subset p s.faults _ hf)⟩

theorem Calm.withDatabase (h : s.Calm) (n : Int) (d : Store) : (s.withDatabase n d).Calm :=
  ⟨h.events, h.reliable⟩

/-- Writing to keys elsewhere keeps the agreement. -/
theorem withDatabase_agree {n : Int} {d : Store}
    (h : ∀ k ∈ keys, d.find? k = (s.database n).find? k) :
    AgreeOn keys (s.withDatabase n d) s := by
  refine ⟨rfl, rfl, rfl, fun l k hk => ?_⟩
  rw [database_withDatabase]
  split
  · rename_i hl
    rw [h k hk, hl]
  · rfl

theorem AgreeOn.withDatabase {n : Int} {d d' : Store} (h : AgreeOn keys s t)
    (hd : ∀ k ∈ keys, d.find? k = d'.find? k) :
    AgreeOn keys (s.withDatabase n d) (t.withDatabase n d') := by
  refine ⟨h.clock, h.isUp, h.handling, fun l k hk => ?_⟩
  rw [database_withDatabase, database_withDatabase]
  split
  · exact hd k hk
  · exact h.entry l k hk

end Session

theorem Client.served_calm (c : Client) (effect : Int → Store → Effect) {s : Session} (h : s.Calm) :
    (c.served effect s).2.Calm := by
  unfold served
  split
  · exact h.withDatabase _ _
  · exact h

/-- A command whose effect is on one key is an action on that key. -/
theorem Action.Confined.issue {k : Bytes} {effect : Int → Store → Effect}
    (hk : Effect.OnKey k effect) (c : Client) (p : Point) : Confined k (c.issue p effect) where
  calm s hs := by
    rw [c.perform_issue p hs]
    exact c.served_calm effect (hs.takeFault p)
  alike keys s t hmem hs ht h := by
    rw [c.perform_issue p hs, c.perform_issue p ht]
    replace h := ((takeFault_agree keys s p).trans h).trans (takeFault_agree keys t p).symm
    generalize (s.takeFault p).2 = s at h
    generalize (t.takeFault p).2 = t at h
    have hentry := h.entry c.database k hmem
    obtain ⟨hreply, hstore⟩ :=
      hk.congr s.clock (s.database c.database) (t.database c.database) hentry
    unfold Client.served
    rw [← h.isUp, ← h.clock, ← h.handling]
    split
    · refine ⟨by dsimp only; rw [hreply], h.withDatabase fun l hl => ?_⟩
      by_cases hlk : l = k
      · rw [hlk, hstore]
      · rw [hk.spared _ _ l hlk, hk.spared _ _ l hlk, h.entry c.database l hl]
    · exact ⟨rfl, h⟩
  elsewhere keys s hmem hs := by
    rw [c.perform_issue p hs]
    have h := takeFault_agree keys s p
    generalize (s.takeFault p).2 = s' at h
    have hserved : AgreeOn keys (c.served effect s').2 s' := by
      unfold Client.served
      split
      · refine withDatabase_agree fun l hl => hk.spared _ _ l ?_
        rintro rfl
        exact hmem hl
      · exact .refl keys s'
    have hsame := hserved.trans h
    refine ⟨Int.le_of_eq hsame.clock.symm, ?_⟩
    rw [hsame.clock]
    exact hsame

theorem Action.Confined.ask {k : Bytes} {effect : Int → Store → Effect} (hk : Effect.OnKey k effect)
    (c : Client) (p : Point) (name : String) : Confined k (c.ask p name effect) :=
  .bind (.issue hk c p) fun _ => .ofExcept _

end Leasehold

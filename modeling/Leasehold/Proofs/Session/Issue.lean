import Leasehold.Proofs.Retry
import Leasehold.Proofs.Session.Outside
import Leasehold.Proofs.Text.Utf8
import Leasehold.Session.Action

/-!
# What issuing a command does

- **Sequences** (`Action.perform_bind`): an action that fails ends the sequence, and what it changed
  stays changed.
- **Getting through** (`Action.reach_cases`): at most an arranged failure is used up.
- **Issuing** (`Client.issue_cases`): a command that is answered had its whole effect, and one that
  is not had none, whether it did not get through or was refused.
- **Replies** (`Client.perform_ask`, `Client.handOn_ok`): how a client hands them on.
-/

namespace Leasehold

variable {α β : Type} {s : Session}

namespace Action

@[simp] theorem perform_bind (a : Action α) (f : α → Action β) (s : Session) :
    (a >>= f).perform s =
      match a.perform s with
      | (.ok x, s) => (f x).perform s
      | (.error e, s) => (.error e, s) := by
  show (a >>= f) s = _
  rw [Retry.bind_run]
  unfold perform
  rcases a s with ⟨_ | _, _⟩ <;> rfl

@[simp] theorem perform_pure (x : α) (s : Session) : (pure x : Action α).perform s = (.ok x, s) := rfl

@[simp] theorem perform_of (f : Session → Except Failure α × Session) (s : Session) :
    (of f).perform s = f s := rfl

@[simp] theorem perform_ofExcept (e : Except Failure α) (s : Session) :
    (ofExcept e).perform s = (e, s) := rfl

/-- What is worked out from the value of an action does not touch the session. -/
theorem perform_bind_ofExcept {a : Action α} {e : Except Failure α} {t : Session}
    (f : α → Except Failure β) (h : a.perform s = (e, t)) :
    (a >>= fun x => ofExcept (f x)).perform s = (e.bind f, t) := by
  rw [perform_bind, h]
  cases e <;> rfl

@[simp] theorem perform_sleep (ms : Nat) (s : Session) : (sleep ms).perform s = (.ok (), s.pass ms) :=
  rfl

@[simp] theorem perform_report (level : Level) (message : String) (s : Session) :
    (report level message).perform s = (.ok (), s.report level message) := rfl

theorem perform_bind_pure (a : Action α) (g : α → β) (s : Session) :
    (a >>= fun x => pure (g x)).perform s = ((a.perform s).1.map g, (a.perform s).2) := by
  rw [perform_bind]
  rcases a.perform s with ⟨_ | _, _⟩ <;> rfl

/-- A handler goes on from what was changed before the failure. -/
theorem perform_tryCatch (a : Action α) (h : Failure → Action α) (s : Session) :
    (tryCatch a h).perform s =
      match a.perform s with
      | (.ok x, s) => (.ok x, s)
      | (.error f, s) => (h f).perform s := by
  show (ExceptT.tryCatch a h) s = _
  unfold ExceptT.tryCatch ExceptT.mk perform
  show (StateT.bind a _ : StateM Session (Except Failure α)) s = _
  unfold StateT.bind
  rcases a s with ⟨_ | _, _⟩ <;> rfl

/-- Catching every failure leaves an action that ends with what the first one ended with. -/
theorem perform_caught (a : Action α) (s : Session) :
    (tryCatch (Except.ok <$> a) fun f => pure (.error f)).perform s =
      (.ok (a.perform s).1, (a.perform s).2) := by
  rw [perform_tryCatch, ← bind_pure_comp, perform_bind_pure]
  rcases a.perform s with ⟨_ | _, _⟩ <;> rfl

theorem perform_surfacing (operation : String) (key : Option String) (a : Action α) (s : Session) :
    (surfacing operation key a).perform s =
      ((a.perform s).1.mapError (·.surfaced operation key), (a.perform s).2) := by
  unfold surfacing
  rw [perform_of]
  rcases a.perform s with ⟨_ | _, _⟩ <;> rfl

end Action

namespace Session

theorem takeFault_eq (s : Session) (p : Point) :
    (s.takeFault p).2 = { s with faults := (takeFrom p s.faults).2 } := rfl

theorem takeFault_alike (s : Session) (p : Point) : (s.takeFault p).2.Alike s :=
  ⟨⟨rfl, fun _ => rfl⟩, rfl, rfl⟩

theorem report_alike (s : Session) (level : Level) (message : String) :
    (s.report level message).Alike s := by
  unfold report
  split
  · exact ⟨⟨rfl, fun _ => rfl⟩, rfl, rfl⟩
  · exact .refl s

end Session

open Session

/-- A command gets through to the server unless a failure is arranged for its point or the server is
down. What is arranged for it is used up either way. -/
theorem Action.reach_cases (p : Point) (s : Session) :
    (∃ f, (s.takeFault p).1 = some f ∧
      (reach p).perform s = (.error (f.during s.handling), (s.takeFault p).2)) ∨
    ((s.takeFault p).1 = none ∧ s.isUp = false ∧
      (reach p).perform s = (.error (unreachable.during s.handling), (s.takeFault p).2)) ∨
    ((s.takeFault p).1 = none ∧ s.isUp = true ∧
      (reach p).perform s = (.ok (), (s.takeFault p).2)) := by
  have heq := takeFault_eq s p
  unfold reach
  rw [perform_of]
  rcases h : s.takeFault p with ⟨_ | f, t⟩
  all_goals
    rw [h] at heq
    obtain rfl : t = _ := heq
  · cases hs : s.isUp with
    | false => exact .inr (.inl ⟨rfl, rfl, by simp⟩)
    | true => exact .inr (.inr ⟨rfl, rfl, by simp⟩)
  · exact .inl ⟨f, rfl, rfl⟩

/-- Why a command that is issued at a point, and that the server would reply to, fails. -/
inductive Unanswered (p : Point) (reply : Except Refusal Reply) (s : Session) : Failure → Prop where
  | arranged {f : Failure} (fault : (s.takeFault p).1 = some f) :
      Unanswered p reply s (f.during s.handling)
  | down (fault : (s.takeFault p).1 = none) (isUp : s.isUp = false) :
      Unanswered p reply s (Action.unreachable.during s.handling)
  | refused {r : Refusal} (fault : (s.takeFault p).1 = none) (isUp : s.isUp = true)
      (refusal : reply = .error r) : Unanswered p reply s (.ofRefusal r)

/-- A command that is issued fails and changes nothing on the server, or is answered and has its
effect on the database of the client. -/
theorem Client.issue_cases (c : Client) (p : Point) (effect : Int → Store → Effect)
    (honest : ∀ now d, (effect now d).Honest d) (s : Session) :
    (∃ f s', (c.issue p effect).perform s = (.error f, s') ∧
      Unanswered p (effect s.clock (s.database c.database)).reply s f ∧ s'.Alike s) ∨
    ∃ r s', (c.issue p effect).perform s = (.ok r, s') ∧
      (effect s.clock (s.database c.database)).reply = .ok r ∧
      s'.Alike (s.withDatabase c.database (effect s.clock (s.database c.database)).store) := by
  have ha := takeFault_alike s p
  unfold issue
  rw [Action.perform_bind]
  obtain ⟨f, hf, h⟩ | ⟨hf, hup, h⟩ | ⟨hf, hup, h⟩ := Action.reach_cases p s
  · rw [h]; exact .inl ⟨_, _, rfl, .arranged hf, ha⟩
  · rw [h]; exact .inl ⟨_, _, rfl, .down hf hup, ha⟩
  rw [h]
  dsimp only
  rw [Action.perform_of]
  unfold Session.apply
  dsimp only
  rw [ha.clock, ha.database]
  cases hr : (effect s.clock (s.database c.database)).reply with
  | error r =>
    refine .inl ⟨_, _, rfl, .refused hf hup rfl, ?_⟩
    rw [(honest _ _).refused r hr, ← ha.database]
    exact (withDatabase_alike rfl).trans ha
  | ok r => exact .inr ⟨r, _, rfl, rfl, ha.withDatabase _ _⟩

/-! ## Replies -/

/-- An acknowledgement is read back, and a `SET` turns it into the truth. -/
theorem Request.read_ok (decodes : Bool) :
    ∃ v, read decodes .ok = .ok v ∧ converted (some "SET") v = .bool true := by
  cases decodes with
  | false => exact ⟨_, rfl, rfl⟩
  | true =>
    refine ⟨.text "OK", ?_, rfl⟩
    simp [read, handedOn, Except.map]

namespace Client

variable (c : Client) (p : Point) (name : String) (effect : Int → Store → Effect)

@[simp] theorem handOn_ok : c.handOn "SET" .ok = .ok (.bool true) := by
  obtain ⟨v, hread, hset⟩ := Request.read_ok c.decodes
  unfold handOn
  rw [hread]
  dsimp only
  rw [hset]

@[simp] theorem handOn_refused : c.handOn "SET" (.bulk none) = .ok .null := rfl

@[simp] theorem handOn_script (n : Int) : c.handOn "EVAL" (.integer n) = .ok (.int n) := rfl

@[simp] theorem handOn_count (n : Int) : c.handOn "EXISTS" (.integer n) = .ok (.int n) := rfl

@[simp] theorem handOn_absent : c.handOn "GET" (.bulk none) = .ok .null := rfl

/-- Asking is issuing a command and handing on its reply. -/
theorem perform_ask (s : Session) :
    (c.ask p name effect).perform s =
      match (c.issue p effect).perform s with
      | (.ok r, s') => (c.handOn name r, s')
      | (.error f, s') => (.error f, s') := by
  unfold ask
  rw [Action.perform_bind]
  rcases (c.issue p effect).perform s with ⟨f | r, s'⟩ <;> rfl

/-- A reply that cannot be read is no matter of the connection. -/
theorem surfaced_handOn (operation : String) (key : Option String) (r : Reply) :
    (c.handOn name r).mapError (·.surfaced operation key) = c.handOn name r := by
  unfold handOn
  split <;> rfl

end Client

end Leasehold

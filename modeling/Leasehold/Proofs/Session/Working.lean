import Leasehold.Proofs.Session.Confined

/-!
# What commands make of a session

An action that issues commands and writes to the log, and does not let time pass, leaves most of a
session as it is.

- **Worked sessions** (`Session.Worked`): what such actions make of a session, step by step. The server
  stays up or down, nothing is arranged anew, and no identifier is given out.
- **Working actions** (`Action.Working`): they make such sessions. Sequences of them are working
  (`Action.Working.bind`).
- **Asking the server** (`Action.AsksServer`): an action that cannot succeed while the server is down.
-/

namespace Leasehold

namespace Session

/-- A session that issuing commands and logging have made of another. -/
inductive Worked (s : Session) : Session → Prop where
  | refl : Worked s s
  | report {t : Session} (h : Worked s t) (level : Level) (message : String) :
      Worked s (t.report level message)
  | takeFault {t : Session} (h : Worked s t) (p : Point) : Worked s (t.takeFault p).2
  | withDatabase {t : Session} (h : Worked s t) (n : Int) (d : Store) : Worked s (t.withDatabase n d)

namespace Worked

variable {s t u : Session}

theorem trans (h₁ : Worked s t) (h₂ : Worked t u) : Worked s u := by
  induction h₂ with
  | refl => exact h₁
  | report _ level message ih => exact ih.report level message
  | takeFault _ p ih => exact ih.takeFault p
  | withDatabase _ n d ih => exact ih.withDatabase n d

/-- Only databases, arranged failures and the log are not as they were. -/
theorem eq (h : Worked s t) : ∃ databases faults log, t = { s with databases, faults, log } := by
  induction h with
  | refl => exact ⟨s.databases, s.faults, s.log, rfl⟩
  | @report t _ level message ih =>
    obtain ⟨databases, faults, _, rfl⟩ := ih
    obtain ⟨log, hlog⟩ := report_eq { s with databases, faults, log := _ } level message
    exact ⟨databases, faults, log, hlog⟩
  | takeFault _ p ih =>
    obtain ⟨databases, _, log, rfl⟩ := ih
    exact ⟨databases, _, log, rfl⟩
  | withDatabase _ n d ih =>
    obtain ⟨_, faults, log, rfl⟩ := ih
    exact ⟨_, faults, log, rfl⟩

theorem isUp (h : Worked s t) : t.isUp = s.isUp := by
  obtain ⟨_, _, _, rfl⟩ := h.eq
  rfl

theorem events (h : Worked s t) : t.events = s.events := by
  obtain ⟨_, _, _, rfl⟩ := h.eq
  rfl

theorem identifiers (h : Worked s t) : t.identifiers = s.identifiers := by
  obtain ⟨_, _, _, rfl⟩ := h.eq
  rfl

theorem faults (h : Worked s t) : ∀ x ∈ t.faults, x ∈ s.faults := by
  induction h with
  | refl => exact fun _ hx => hx
  | @report t _ level message ih =>
    obtain ⟨log, hlog⟩ := t.report_eq level message
    rw [hlog]
    exact ih
  | @takeFault t _ p ih => exact fun x hx => ih x (takeFrom_subset p t.faults x hx)
  | withDatabase _ _ _ ih => exact ih

theorem calm (h : Worked s t) (hs : s.Calm) : t.Calm :=
  ⟨h.events.trans hs.events, fun p f hf => hs.reliable p f (h.faults _ hf)⟩

end Worked
end Session

open Session

namespace Action

variable {α β : Type}

/-- An action that issues commands and writes to the log, and does nothing else. -/
def Working (a : Action α) : Prop := ∀ s, Worked s (a.perform s).2

namespace Working

theorem pure (x : α) : Working (Pure.pure x : Action α) := fun _ => .refl

theorem ofExcept (e : Except Failure α) : Working (Action.ofExcept e) := fun _ => .refl

theorem report (level : Level) (message : String) : Working (Action.report level message) :=
  fun _ => .report .refl level message

theorem bind {a : Action α} {f : α → Action β} (ha : Working a) (hf : ∀ x, Working (f x)) :
    Working (a >>= f) := by
  intro s
  have hs := ha s
  rw [perform_bind]
  rcases hdone : a.perform s with ⟨e | x, t⟩
  all_goals rw [hdone] at hs
  · exact hs
  · exact hs.trans (hf x t)

theorem surfacing {a : Action α} (ha : Working a) (operation : String) (key : Option String) :
    Working (Action.surfacing operation key a) := by
  intro s
  rw [perform_surfacing]
  exact ha s

theorem issue (c : Client) (p : Point) (effect : Int → Store → Effect) :
    Working (c.issue p effect) := by
  refine bind (fun s => ?_) fun _ s => ?_
  · rw [reach_session]
    exact .takeFault .refl p
  · simp only [perform_of, Session.apply]
    have h : Worked s (s.withDatabase c.database (effect s.clock (s.database c.database)).store) :=
      .withDatabase .refl _ _
    split <;> simp_all

theorem ask (c : Client) (p : Point) (name : String) (effect : Int → Store → Effect) :
    Working (c.ask p name effect) :=
  .bind (.issue c p effect) fun _ => .ofExcept _

end Working

/-- An action that fails while the server is down. -/
def AsksServer (a : Action α) : Prop := ∀ s : Session, s.isUp = false → ∃ f, (a.perform s).1 = .error f

namespace AsksServer

theorem isUp {a : Action α} (ha : AsksServer a) {s s' : Session} {x : α}
    (h : a.perform s = (.ok x, s')) : s.isUp = true := by
  cases hs : s.isUp with
  | true => rfl
  | false =>
    obtain ⟨f, hf⟩ := ha s hs
    rw [h] at hf
    cases hf

theorem bind {a : Action α} (ha : AsksServer a) (f : α → Action β) : AsksServer (a >>= f) := by
  intro s hs
  obtain ⟨e, he⟩ := ha s hs
  rw [perform_bind]
  rcases hdone : a.perform s with ⟨e' | x, t⟩
  · exact ⟨e', rfl⟩
  · rw [hdone] at he
    cases he

theorem after {e : Except Failure α} {x : α} (he : e = .ok x) {f : α → Action β}
    (hf : AsksServer (f x)) : AsksServer (Action.ofExcept e >>= f) := by
  intro s hs
  rw [perform_bind, perform_ofExcept, he]
  exact hf s hs

theorem surfacing {a : Action α} (ha : AsksServer a) (operation : String) (key : Option String) :
    AsksServer (Action.surfacing operation key a) := by
  intro s hs
  obtain ⟨e, he⟩ := ha s hs
  rw [perform_surfacing, he]
  exact ⟨_, rfl⟩

theorem issue (c : Client) (p : Point) (effect : Int → Store → Effect) :
    AsksServer (c.issue p effect) := by
  refine bind (fun s hs => ?_) _
  obtain ⟨f, -, h⟩ | ⟨-, -, h⟩ | ⟨-, hup, -⟩ := reach_cases p s
  · exact ⟨_, by rw [h]⟩
  · exact ⟨_, by rw [h]⟩
  · rw [hs] at hup
    cases hup

theorem ask (c : Client) (p : Point) (name : String) (effect : Int → Store → Effect) :
    AsksServer (c.ask p name effect) :=
  bind (.issue c p effect) _

end AsksServer
end Action
end Leasehold

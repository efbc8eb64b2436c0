import Leasehold.Store.Request
import Mathlib

/-!
# What a command leaves alone

A command changes no entry whose key it does not touch, and nothing at all when it is refused.

- **Honest effects** (`Effect.Honest`): answers, refusals and single writes are honest.
- **Commands** (`Command.run_honest`), **requests** (`Request.Meaning.run_honest`) and **scripts**
  (`Script.run_honest`) have honest effects only, also when they delete one key after the other
  (`Command.deleteAll_find?`), are not sent (`Effect.Honest.sending`) or would be for a database that does
  not exist (`Effect.Honest.choosing`).
-/

namespace Leasehold

variable {now : Int} {s : Store} {k : Bytes}

/-- An effect on a database that changes only entries whose keys it touches, and none when it is a
refusal. -/
structure Effect.Honest (s : Store) (e : Effect) : Prop where
  spared : ∀ k ∉ e.touched, e.store.find? k = s.find? k
  refused : ∀ r, e.reply = .error r → e.store = s

namespace Effect

theorem honest_answer (r : Reply) : (answer s r).Honest s := ⟨fun _ _ => rfl, fun _ _ => rfl⟩

theorem honest_refuse (r : Refusal) : (refuse s r).Honest s := ⟨fun _ _ => rfl, fun _ _ => rfl⟩

theorem Honest.sending {e : Effect} (h : e.Honest s) (n : Int) : (sending n s e).Honest s := by
  unfold Effect.sending
  split
  · exact h
  · exact honest_refuse _

theorem Honest.choosing {e : Effect} (h : e.Honest s) (count : Nat) (n : Int) :
    (choosing count n s e).Honest s := by
  unfold Effect.choosing
  split
  · exact h
  · exact (honest_refuse _).sending n

theorem honest_put (r : Reply) (e : Entry) : (⟨.ok r, s.put k e, [k]⟩ : Effect).Honest s := by
  refine ⟨fun l hl => ?_, fun _ h => nomatch h⟩
  rw [Store.find?_put, if_neg (by simpa using hl)]

end Effect

namespace Command

open Effect

theorem runSet_honest (v : Bytes) (deadline : Option Int) (c : Condition) :
    (runSet now s k v deadline c).Honest s := by
  unfold runSet
  cases c <;> dsimp only <;> split
  all_goals first
    | exact honest_put _ _
    | exact honest_answer _

theorem runIncrement_honest (amount : Int) : (runIncrement now s k amount).Honest s := by
  unfold runIncrement
  dsimp only
  repeat' split
  all_goals first
    | exact honest_put _ _
    | exact honest_refuse _

theorem deleteAll_find? {ks : List Bytes} (h : k ∉ (deleteAll now s ks).2.2) :
    (deleteAll now s ks).2.1.find? k = s.find? k := by
  induction ks generalizing s with
  | nil => rfl
  | cons k' rest ih =>
    rw [deleteAll] at h ⊢
    cases hl : s.live now k' with
    | none =>
      simp only [hl] at h ⊢
      exact ih h
    | some e =>
      simp only [hl, List.mem_cons, not_or] at h ⊢
      rw [ih h.2, Store.find?_erase, if_neg h.1]

/-- A command changes no entry whose key it does not touch, and none when it is refused. -/
theorem run_honest (c : Command) : (c.run now s).Honest s := by
  cases c with
  | delete ks => exact ⟨fun _ h => deleteAll_find? h, fun _ h => nomatch h⟩
  | increment k amount => exact runIncrement_honest amount
  | set k v lifetime condition =>
    unfold run
    dsimp only
    repeat' split
    all_goals first
      | exact runSet_honest _ _ _
      | exact honest_refuse _
  | get | getMany | count | length | remaining | range | ping | append | expire | persist | push =>
    unfold run
    dsimp only
    repeat' split
    all_goals first
      | exact honest_put _ _
      | exact honest_answer _
      | exact honest_refuse _

end Command

theorem Script.run_honest (token : Bytes) (script : Script) :
    (script.run now s k token).Honest s := by
  unfold run
  split
  · exact Effect.honest_answer _
  · exact Effect.honest_refuse _
  · split
    · cases script <;> exact Command.run_honest _
    · exact Effect.honest_answer _

theorem Script.send_honest (token : Bytes) (script : Script) :
    (script.send now s k token).Honest s := by
  cases script with
  | delete => exact run_honest token .delete
  | expire ms => exact (run_honest token (.expire ms)).sending ms

/-- A request changes no entry whose key it does not touch, and none when it is refused. -/
theorem Request.Meaning.run_honest (m : Request.Meaning) : (m.run now s).Honest s := by
  cases m with
  | malformed => exact Effect.honest_refuse _
  | failing r => exact Effect.honest_refuse _
  | command c => exact Command.run_honest c

end Leasehold

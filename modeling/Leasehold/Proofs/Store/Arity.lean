import Leasehold.Store.Request
import Mathlib

/-!
# Which requests are understood

A request is understood when it names a command and has a right number of arguments
(`Request.meaning_eq_malformed_iff`). What the arguments say does not matter for that.
-/

namespace Leasehold.Request

/-- Whether there is a command of a name that takes a number of arguments. -/
def takes (name : String) (count : Nat) : Bool :=
  match name with
  | "SET" => decide (2 ≤ count)
  | "GET" => count == 1
  | "MGET" => decide (1 ≤ count)
  | "DEL" => decide (1 ≤ count)
  | "EXISTS" => decide (1 ≤ count)
  | "INCR" => count == 1
  | "DECR" => count == 1
  | "INCRBY" => count == 2
  | "DECRBY" => count == 2
  | "APPEND" => count == 2
  | "STRLEN" => count == 1
  | "PEXPIRE" => decide (2 ≤ count)
  | "PTTL" => count == 1
  | "PERSIST" => count == 1
  | "LPUSH" => decide (2 ≤ count)
  | "LRANGE" => count == 3
  | "PING" => true
  | _ => false

/-- Words that name a command and give it a right number of arguments. -/
def Understood : List Bytes → Prop
  | [] => False
  | name :: args => takes (optionWord name) args.length = true

instance : ∀ words, Decidable (Understood words)
  | [] => isFalse id
  | name :: args => inferInstanceAs (Decidable (takes (optionWord name) args.length = true))

theorem setOptions_ne_malformed (key value : Bytes) (lifetime : Option Int) (condition : Condition)
    (options : List Bytes) :
    setOptions key value lifetime condition options ≠ .malformed := by
  fun_induction setOptions key value lifetime condition options
  all_goals first
    | assumption
    | exact (nomatch ·)

theorem withInt_ne_malformed (b : Bytes) (make : Int → Command) : withInt b make ≠ .malformed := by
  unfold withInt
  split <;> exact (nomatch ·)

/-- A request is malformed exactly when its name or the number of its arguments is wrong. -/
theorem meaning_eq_malformed_iff (words : List Bytes) :
    meaning words = .malformed ↔ ¬ Understood words := by
  cases words with
  | nil => exact iff_of_true rfl id
  | cons name args =>
    unfold meaning Understood
    dsimp only
    generalize optionWord name = w
    split
    case h_21 =>
      -- An unknown name, or a number of arguments for which the name has no case.
      refine iff_of_true rfl fun h => ?_
      unfold takes at h
      split at h
      all_goals
        rcases args with _ | ⟨a, _ | ⟨b, _ | ⟨c, _ | ⟨d, rest⟩⟩⟩⟩ <;> grind
    case h_17 =>
      refine iff_of_false ?_ (not_not.mpr rfl)
      split <;> exact (nomatch ·)
    all_goals first
      | exact iff_of_false (setOptions_ne_malformed _ _ _ _ _) (not_not.mpr (by simp [takes]))
      | exact iff_of_false (withInt_ne_malformed _ _) (not_not.mpr rfl)
      | exact iff_of_false (nomatch ·) (not_not.mpr (by simp [takes]))

end Leasehold.Request

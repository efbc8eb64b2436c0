import Leasehold.Number.Numeral
import Leasehold.Proofs.Text.Blank
import Mathlib

/-!
# Whole numbers read back from their digits

- **Digits** (`Numeral.isDigit_of_mem_toDigits`, `Numeral.head_toDigits`): the decimal form of a number
  has digits only, and starts with a zero only if it is the zero.
- **Whole numbers** (`Numeral.integer?_toString`): a whole number that is not too long is read back from
  its decimal form.
- **The limit** (`Numeral.isWritable_iff`): what is read as a whole number can be written
  (`Numeral.isWritable_of_readInteger?`).
- **Any script** (`Numeral.readInteger?_toString`): a reader of digits of any script reads back the same, as
  the decimal form has ASCII characters only and no blanks (`Numeral.bare_toString`).
-/

namespace Leasehold.Numeral

/-! ## Digits -/

theorem isDigit_of_mem_toDigits {n : Nat} {c : Char} (h : c ∈ Nat.toDigits 10 n) :
    isDigit c = true :=
  Nat.isDigit_of_mem_toDigits (by decide) (by decide) h

theorem toDigits_start (n : Nat) : ∃ d ds, Nat.toDigits 10 n = d :: ds ∧ isDigit d = true := by
  obtain ⟨d, ds, h⟩ := List.exists_cons_of_ne_nil (Nat.toDigits_ne_nil (n := n) (b := 10))
  have hd : d ∈ Nat.toDigits 10 n := by rw [h]; exact List.mem_cons_self
  exact ⟨d, ds, h, isDigit_of_mem_toDigits hd⟩

/-- A positive number starts with another digit than zero. -/
theorem head_toDigits {n : Nat} (h : 0 < n) : (Nat.toDigits 10 n).head? ≠ some '0' := by
  induction n using Nat.strongRecOn with
  | ind n ih =>
    by_cases hn : n < 10
    · rw [Nat.toDigits_of_lt_base hn]
      interval_cases n <;> decide
    · rw [Nat.toDigits_of_base_le (by decide) (by omega),
        List.head?_append_of_ne_nil _ Nat.toDigits_ne_nil]
      exact ih (n / 10) (by omega) (by omega)

theorem ofDigits_toDigits (n : Nat) : ofDigits (Nat.toDigits 10 n) = n := by
  have hstep : (fun (n : Nat) c => n * 10 + digitOf c) = fun n c => 10 * n + (c.toNat - '0'.toNat) := by
    funext n c
    rw [Nat.mul_comm]
    rfl
  unfold ofDigits
  rw [hstep]
  exact Nat.ofDigitChars_toDigits (by decide) (by decide)

theorem groupedDigits?_of_digits {cs : List Char} (h : ∀ c ∈ cs, isDigit c = true) :
    groupedDigits? true cs = some cs := by
  induction cs with
  | nil => rfl
  | cons c cs ih =>
    have hc := h c List.mem_cons_self
    have hne : c ≠ '_' := by
      rintro rfl
      cases hc
    rw [groupedDigits?]
    · rw [if_pos hc, ih fun d hd => h d (List.mem_cons_of_mem _ hd)]
      rfl
    · exact hne

theorem groupedDigits?_toDigits (n : Nat) :
    groupedDigits? false (Nat.toDigits 10 n) = some (Nat.toDigits 10 n) := by
  have hdigits : ∀ c ∈ Nat.toDigits 10 n, isDigit c = true := fun c => isDigit_of_mem_toDigits
  obtain ⟨c, cs, hcs, hc⟩ := toDigits_start n
  rw [hcs] at hdigits ⊢
  have hne : c ≠ '_' := by
    rintro rfl
    cases hc
  rw [groupedDigits?]
  · rw [if_pos hc, groupedDigits?_of_digits fun d hd => hdigits d (List.mem_cons_of_mem _ hd)]
    rfl
  · exact hne

/-! ## Whole numbers -/

/-- The sign of a whole number in its decimal form. -/
def signOf (n : Int) : List Char := if n < 0 then ['-'] else []

theorem toList_toString (n : Int) : (toString n).toList = signOf n ++ Nat.toDigits 10 n.natAbs := by
  cases n with
  | ofNat n => simp [signOf, toString, Int.repr, Nat.repr]
  | negSucc n => simp [signOf, toString, Int.repr, Nat.repr]

theorem signed_natAbs (n : Int) : signed (decide (n < 0)) n.natAbs = n := by
  unfold signed
  split
  all_goals
    rename_i h
    simp only [decide_eq_true_eq] at h
    omega

theorem splitSign_digits (n : Int) :
    splitSign (signOf n ++ Nat.toDigits 10 n.natAbs) =
      (decide (n < 0), Nat.toDigits 10 n.natAbs) := by
  unfold signOf
  by_cases h : n < 0
  · rw [if_pos h, decide_eq_true h]
    rfl
  · rw [if_neg h, decide_eq_false h, List.nil_append]
    obtain ⟨d, ds, hds, hd⟩ := toDigits_start n.natAbs
    -- A digit is no sign.
    rw [hds, splitSign]
    all_goals
      intro rest heq
      obtain rfl := (List.cons.inj heq).1
      cases hd

/-- A whole number that is not too long is read back from its decimal form. -/
theorem integer?_toString {n : Int} (h : (Nat.toDigits 10 n.natAbs).length ≤ integerDigitLimit) :
    integer? (toString n).toList = some n := by
  have hparts : integerParts? (toString n).toList =
      some (decide (n < 0), Nat.toDigits 10 n.natAbs) := by
    rw [toList_toString]
    unfold integerParts?
    rw [splitSign_digits]
    dsimp only
    rw [groupedDigits?_toDigits]
    rfl
  unfold integer?
  rw [hparts, Option.bind_some]
  dsimp only
  rw [if_pos h, ofDigits_toDigits, signed_natAbs]

/-! ## The limit -/

theorem isWritable_iff {n : Int} : isWritable n = true ↔ n.natAbs < 10 ^ integerDigitLimit := by
  rw [isWritable, decide_eq_true_eq]
  exact Nat.length_toDigits_le_iff (by decide) (by decide)

theorem mem_toString {n : Int} {c : Char} (h : c ∈ (toString n).toList) : c = '-' ∨ isDigit c = true := by
  rw [toList_toString, List.mem_append] at h
  rcases h with hsign | hdigit
  · unfold signOf at hsign
    split at hsign
    · exact .inl (List.mem_singleton.mp hsign)
    · cases hsign
  · exact .inr (isDigit_of_mem_toDigits hdigit)

/-- The characters of a decimal form are ASCII characters behind the blanks. -/
theorem toNat_of_mem_toString {n : Int} {c : Char} (h : c ∈ (toString n).toList) :
    0x20 < c.toNat ∧ c.toNat < 0x7f := by
  rcases mem_toString h with rfl | hdigit
  · decide
  · simp only [isDigit, Bool.and_eq_true, decide_eq_true_eq, Char.le_def] at hdigit
    have hlow : 0x30 ≤ c.toNat := hdigit.1
    have hhigh : c.toNat ≤ 0x39 := hdigit.2
    omega

theorem isBlank_of_mem_toString {n : Int} {c : Char} (h : c ∈ (toString n).toList) :
    Text.isBlank c = false := by
  have hrange := toNat_of_mem_toString h
  simp only [Text.isBlank, Bool.or_eq_false_iff, Bool.and_eq_false_iff, decide_eq_false_iff_not,
    beq_eq_false_iff_ne]
  omega

theorem isAsciiBlank_of_mem_toString {n : Int} {c : Char} (h : c ∈ (toString n).toList) :
    Text.isAsciiBlank c = false := by
  have hrange := toNat_of_mem_toString h
  have hspace : c ≠ ' ' := by
    rintro rfl
    exact absurd hrange.1 (by decide)
  simp only [Text.isAsciiBlank, Bool.or_eq_false_iff, Bool.and_eq_false_iff, decide_eq_false_iff_not,
    beq_eq_false_iff_ne]
  exact ⟨hspace, by omega⟩

/-- A decimal form has no blanks. -/
theorem bare_toString (n : Int) : Text.Bare (toString n) where
  holds hempty := by
    have hnil := toList_toString n
    rw [hempty] at hnil
    exact Nat.toDigits_ne_nil (List.append_eq_nil_iff.mp hnil.symm).2
  first _ hc := isBlank_of_mem_toString (List.mem_of_head? hc)
  last _ hc := isBlank_of_mem_toString (List.mem_of_getLast? hc)

theorem plain_toString (n : Int) : plain (toString n) = (toString n).toList := by
  have hascii : Text.asciiDigits (toString n).toList = (toString n).toList := by
    have hkept : ∀ c ∈ (toString n).toList, c.toNat < 0x7f := fun c hc => (toNat_of_mem_toString hc).2
    exact (List.map_congr_left fun c hc => if_pos (hkept c hc)).trans (List.map_id' _)
  rw [plain, hascii]
  exact Text.trimBy_of_forall_not fun c hc => isAsciiBlank_of_mem_toString hc

/-- A whole number that is not too long is read back from its decimal form. -/
theorem readInteger?_toString {n : Int} (h : (Nat.toDigits 10 n.natAbs).length ≤ integerDigitLimit) :
    readInteger? (toString n) = some n := by
  rw [readInteger?, plain_toString, integer?_toString h]

end Leasehold.Numeral

import Leasehold.Text.Blank
import Mathlib

/-!
# What trimming removes

- **Any class** (`Text.trimBy_padded`, `Text.trimBy_eq_self`): characters of the class around a text do
  not show after trimming, and a text that has none at its ends is left as it is.
- **Blanks** (`Text.trim_padded`, `Text.Bare.trim`, `Text.trim_eq_empty_iff`): the same of blanks; only
  blank texts are trimmed to nothing.
- **What was removed** (`Text.trim_split`): a text is its trimmed form between two blank texts.
-/

namespace Leasehold.Text

/-! ## Any class of characters -/

section Class

variable {p : Char → Bool} {cs before after : List Char}

theorem trimBy_eq (p : Char → Bool) (cs : List Char) :
    trimBy p cs = (cs.dropWhile p).rdropWhile p := rfl

theorem trimBy_eq_nil_iff : trimBy p cs = [] ↔ ∀ c ∈ cs, p c = true := by
  rw [trimBy_eq, List.rdropWhile_eq_nil_iff]
  constructor
  · intro h c hc
    rw [← List.takeWhile_append_dropWhile (p := p) (l := cs), List.mem_append] at hc
    exact hc.elim List.mem_takeWhile_imp (h c)
  · intro h c hc
    exact h c ((List.dropWhile_sublist p).mem hc)

/-- Characters of the class around a text do not show after trimming. -/
theorem trimBy_padded (hbefore : ∀ c ∈ before, p c = true) (hafter : ∀ c ∈ after, p c = true) :
    trimBy p (before ++ cs ++ after) = trimBy p cs := by
  have hend : ∀ ds : List Char, (ds ++ after).rdropWhile p = ds.rdropWhile p := by
    intro ds
    simp only [List.rdropWhile, List.reverse_append]
    rw [List.dropWhile_append_of_pos fun c hc => hafter c (List.mem_reverse.mp hc)]
  rw [trimBy_eq, trimBy_eq, List.append_assoc, List.dropWhile_append_of_pos hbefore,
    List.dropWhile_append]
  split
  · -- The text holds nothing else, and neither does what follows it.
    rename_i hnil
    have hrest : after.dropWhile p = [] := List.dropWhile_eq_nil_iff.mpr hafter
    rw [hrest, List.isEmpty_iff.mp hnil]
  · exact hend _

/-- A text with none of the class at its ends is left as it is. -/
theorem trimBy_eq_self (hfirst : ∀ c, cs.head? = some c → p c = false)
    (hlast : ∀ c, cs.getLast? = some c → p c = false) : trimBy p cs = cs := by
  have hleft : cs.dropWhile p = cs := by
    cases cs with
    | nil => rfl
    | cons c rest => simp [hfirst c rfl]
  rw [trimBy_eq, hleft, List.rdropWhile_eq_self_iff]
  intro hne
  simp [hlast _ (List.getLast?_eq_some_getLast hne)]

theorem trimBy_of_forall_not (h : ∀ c ∈ cs, p c = false) : trimBy p cs = cs :=
  trimBy_eq_self (fun c hc => h c (List.mem_of_head? hc)) fun c hc => h c (List.mem_of_getLast? hc)

/-- A text is its trimmed form between characters of the class. -/
theorem trimBy_split (p : Char → Bool) (cs : List Char) :
    ∃ before after, (∀ c ∈ before, p c = true) ∧ (∀ c ∈ after, p c = true) ∧
      cs = before ++ trimBy p cs ++ after := by
  let rest := cs.dropWhile p
  refine ⟨cs.takeWhile p, (rest.reverse.takeWhile p).reverse, fun c => List.mem_takeWhile_imp,
    fun c hc => List.mem_takeWhile_imp (List.mem_reverse.mp hc), ?_⟩
  calc cs = cs.takeWhile p ++ rest := List.takeWhile_append_dropWhile.symm
    _ = cs.takeWhile p ++ (rest.reverse.takeWhile p ++ rest.reverse.dropWhile p).reverse := by
      rw [List.takeWhile_append_dropWhile (l := rest.reverse), List.reverse_reverse]
    _ = cs.takeWhile p ++ trimBy p cs ++ (rest.reverse.takeWhile p).reverse := by
      rw [List.reverse_append, List.append_assoc]
      rfl

end Class

/-! ## Blanks -/

variable {s before after : String}

/-- A text of blanks only. -/
def IsBlankText (s : String) : Prop := ∀ c ∈ s.toList, isBlank c = true

/-- A text that is not empty, without a blank at its ends. -/
structure Bare (s : String) : Prop where
  holds : s ≠ ""
  first : ∀ c, s.toList.head? = some c → isBlank c = false
  last : ∀ c, s.toList.getLast? = some c → isBlank c = false

/-- Blanks around a text do not show after trimming. -/
theorem trim_padded (hbefore : IsBlankText before) (hafter : IsBlankText after) (s : String) :
    trim (before ++ s ++ after) = trim s := by
  unfold trim
  rw [String.toList_append, String.toList_append, trimBy_padded hbefore hafter]

theorem Bare.trim (h : Bare s) : trim s = s := by
  unfold Text.trim
  rw [trimBy_eq_self h.first h.last, String.ofList_toList]

theorem trim_eq_empty_iff : trim s = "" ↔ IsBlankText s := by
  unfold trim IsBlankText
  rw [← trimBy_eq_nil_iff]
  constructor
  · intro h
    simpa using congrArg String.toList h
  · intro h
    rw [h]

/-- A text is its trimmed form between two blank texts. -/
theorem trim_split (s : String) :
    ∃ before after, IsBlankText before ∧ IsBlankText after ∧ s = before ++ trim s ++ after := by
  obtain ⟨before, after, hbefore, hafter, hs⟩ := trimBy_split isBlank s.toList
  refine ⟨.ofList before, .ofList after, ?_, ?_, ?_⟩
  · simpa [IsBlankText] using hbefore
  · simpa [IsBlankText] using hafter
  · unfold trim
    rw [← String.ofList_append, ← String.ofList_append, ← hs, String.ofList_toList]

end Leasehold.Text

import Leasehold.Json.Printer
import Mathlib

/-!
# Written forms are one line

The writer of JSON uses printable ASCII characters only, so what it writes has no line break inside.

- **Strings** (`Json.isPrinted_quotedString`): whatever they hold, it is escaped.
- **Values** (`Json.Printed`): null, truth values, texts, and objects of such values.
-/

namespace Leasehold.Json

/-- A character of printable ASCII. -/
def IsPrinted (c : Char) : Prop := 0x20 ≤ c.toNat ∧ c.toNat < 0x7f

instance (c : Char) : Decidable (IsPrinted c) := inferInstanceAs (Decidable (_ ∧ _))

/-! ## Strings -/

theorem isPrinted_hexDigit : ∀ d < 16, IsPrinted (Text.hexDigit d) := by decide

theorem isPrinted_hexDigits (width n : Nat) : ∀ c ∈ Text.hexDigits width n, IsPrinted c := by
  induction width generalizing n with
  | zero => simp [Text.hexDigits]
  | succ width ih =>
    intro c hc
    obtain hc | rfl : c ∈ Text.hexDigits width (n / 16) ∨ c = Text.hexDigit (n % 16) := by
      simpa [Text.hexDigits] using hc
    · exact ih _ c hc
    · exact isPrinted_hexDigit _ (Nat.mod_lt n (by decide))

theorem isPrinted_escapeUnit (n : Nat) : ∀ c ∈ escapeUnit n, IsPrinted c := by
  simp only [escapeUnit, List.forall_mem_cons]
  exact ⟨by decide, by decide, isPrinted_hexDigits 4 n⟩

theorem isPrinted_escapePoint (p : CodePoint) : ∀ c ∈ escapePoint p, IsPrinted c := by
  unfold escapePoint
  split
  iterate 7 simp only [List.forall_mem_cons]; exact ⟨by decide, by decide, by simp⟩
  dsimp only
  split
  · rename_i h
    have hvalid : (Char.ofNat p.toNat).toNat = p.toNat := by
      rw [Char.toNat_ofNat, if_pos (.inl (by omega))]
    intro c hc
    rw [List.mem_singleton.mp hc, IsPrinted, hvalid]
    exact h
  split
  · exact isPrinted_escapeUnit _
  · rw [List.forall_mem_append]
    exact ⟨isPrinted_escapeUnit _, isPrinted_escapeUnit _⟩

theorem isPrinted_quotedString (s : List CodePoint) : ∀ c ∈ quotedString s, IsPrinted c := by
  intro c hc
  obtain rfl | ⟨p, -, hp⟩ : c = '"' ∨ ∃ p ∈ s, c ∈ escapePoint p := by
    simpa [quotedString, or_comm] using hc
  · decide
  · exact isPrinted_escapePoint p c hp

/-! ## Values -/

/-- A value whose written form is printable. -/
def Printed (v : Json) : Prop := ∀ c ∈ v.write, IsPrinted c

theorem printed_null : null.Printed := by simp [Printed, write, IsPrinted]

theorem printed_bool (b : Bool) : (bool b).Printed := by
  cases b <;> simp [Printed, write, IsPrinted]

theorem printed_text (s : String) : (text s).Printed := isPrinted_quotedString _

theorem isPrinted_writeMembers {members : List (List CodePoint × Json)}
    (h : ∀ m ∈ members, m.2.Printed) : ∀ c ∈ writeMembers members, IsPrinted c := by
  induction members with
  | nil => simp [writeMembers]
  | cons m rest ih =>
    obtain ⟨name, v⟩ := m
    have hfirst : v.Printed := h (name, v) List.mem_cons_self
    have hrest := ih fun m hm => h m (List.mem_cons_of_mem _ hm)
    have hcolon : IsPrinted ':' ∧ IsPrinted ' ' ∧ IsPrinted ',' := by decide
    intro c hc
    cases rest with
    | nil =>
      simp only [writeMembers, List.mem_append, List.mem_cons] at hc
      rcases hc with hc | rfl | rfl | hc
      · exact isPrinted_quotedString name c hc
      · exact hcolon.1
      · exact hcolon.2.1
      · exact hfirst c hc
    | cons next rest =>
      simp only [writeMembers, List.mem_append, List.mem_cons] at hc
      rcases hc with hc | rfl | rfl | hc | rfl | rfl | hc
      · exact isPrinted_quotedString name c hc
      · exact hcolon.1
      · exact hcolon.2.1
      · exact hfirst c hc
      · exact hcolon.2.2
      · exact hcolon.2.1
      · exact hrest c hc

theorem printed_object {members : List (List CodePoint × Json)} (h : ∀ m ∈ members, m.2.Printed) :
    (object members).Printed := by
  intro c hc
  obtain rfl | hc | rfl : c = '\x7b' ∨ c ∈ writeMembers members ∨ c = '\x7d' := by
    simpa [write] using hc
  · decide
  · exact isPrinted_writeMembers h c hc
  · decide

/-- A printable written form has no line break. -/
theorem Printed.newline_not_mem {v : Json} (h : v.Printed) : '\n' ∉ v.render.toList := by
  intro hmem
  rw [render, String.toList_ofList] at hmem
  exact absurd (h '\n' hmem) (by decide)

end Leasehold.Json

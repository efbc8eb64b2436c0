import Leasehold.Text.Letter
import Mathlib

/-!
# Capital letters of texts that differ in ASCII letters only

The size of ASCII letters does not show in the capital form of a text (`Text.toCapital_of_toLower`).
-/

namespace Leasehold.Text

theorem capitalOf_toLower_ofNat : ∀ n < 91, 65 ≤ n →
    capitalOf (Char.ofNat n).toLower = capitalOf (Char.ofNat n) := by
  decide

theorem capitalOf_toLower (c : Char) : capitalOf c.toLower = capitalOf c := by
  by_cases h : 65 ≤ c.toNat ∧ c.toNat < 91
  · have hc := capitalOf_toLower_ofNat c.toNat h.2 h.1
    rwa [Char.ofNat_toNat] at hc
  · have hsmall : c.toLower = c := by
      unfold Char.toLower
      rw [dif_neg]
      rintro ⟨h₁, h₂⟩
      have h₁ : 65 ≤ c.toNat := h₁
      have h₂ : c.toNat ≤ 90 := h₂
      omega
    rw [hsmall]

theorem toCapital_toLower (s : String) : toCapital s.toLower = toCapital s := by
  unfold toCapital String.toLower
  rw [String.toList_map]
  congr 1
  rw [List.flatMap_map]
  exact List.flatMap_congr fun c _ => capitalOf_toLower c

/-- The size of ASCII letters does not show in the capital form. -/
theorem toCapital_of_toLower {s t : String} (h : s.toLower = t.toLower) :
    toCapital s = toCapital t := by
  rw [← toCapital_toLower, h, toCapital_toLower]

end Leasehold.Text

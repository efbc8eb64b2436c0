import Leasehold.Text.Utf8
import Mathlib

/-!
# What UTF-8 writes reads back

- **One character** (`decodeChar_encodeChar`): the bytes of a character read back as that character,
  whatever follows them.
- **Texts** (`decode_encode`): so do the bytes of a text, hence two texts with the same bytes are the
  same (`encode_inj`). Keys and tokens can be compared as text or as bytes.
- **Beginnings** (`encode_prefix_iff`): no character is the beginning of another one, so a text
  begins with another exactly when its bytes begin with those of the other.
-/

namespace Leasehold.Utf8

/-! ## One character -/

theorem toNat_ofNat_of_lt {n : Nat} (h : n < 256) : (UInt8.ofNat n).toNat = n :=
  UInt8.toNat_ofNat_of_lt' h

/-- A byte that may continue a sequence adds its low six bits. -/
theorem continuation_cons {count lo hi acc x n : Nat} {rest : Bytes} (hx : x < 0x40)
    (hlo : lo ≤ 0x80 + x) (hhi : 0x80 + x ≤ hi)
    (h : continuation count 0x80 0xbf (acc * 0x40 + x) rest = .ok n) :
    continuation (count + 1) lo hi acc (UInt8.ofNat (0x80 + x) :: rest) = .ok n := by
  have hb : (UInt8.ofNat (0x80 + x)).toNat = 0x80 + x := toNat_ofNat_of_lt (by omega)
  simp only [continuation, hb, hlo, hhi, and_self, if_true, Nat.add_sub_cancel_left, h]

theorem toNat_valid (c : Char) : c.toNat < 0xd800 ∨ 0xdfff < c.toNat ∧ c.toNat < 0x110000 :=
  c.valid

/-- What the first of three bytes announces. The second has a range of its own after 0xe0 (overlong forms)
and 0xed (surrogates). -/
theorem lead?_three {n : Nat} (hlow : 0x800 ≤ n) (hhigh : n < 0x10000)
    (hv : n < 0xd800 ∨ 0xdfff < n) :
    ∃ lo hi, lead? (UInt8.ofNat (0xe0 + n / 0x1000)) = some (2, n / 0x1000, lo, hi) ∧
      lo ≤ 0x80 + n / 0x40 % 0x40 ∧ 0x80 + n / 0x40 % 0x40 ≤ hi := by
  have hb : (UInt8.ofNat (0xe0 + n / 0x1000)).toNat = 0xe0 + n / 0x1000 :=
    toNat_ofNat_of_lt (by omega)
  simp only [lead?, hb, beq_iff_eq]
  rw [if_neg (by omega), if_neg (by omega), if_neg (by omega)]
  by_cases h0 : n / 0x1000 = 0
  · refine ⟨0xa0, 0xbf, ?_, by omega, by omega⟩
    rw [if_pos (by omega), h0]
  by_cases hd : n / 0x1000 = 0xd
  · refine ⟨0x80, 0x9f, ?_, by omega, by omega⟩
    rw [if_neg (by omega), if_pos (by omega), hd]
  · refine ⟨0x80, 0xbf, ?_, by omega, by omega⟩
    rw [if_neg (by omega), if_neg (by omega), if_pos (by omega), Nat.add_sub_cancel_left]

/-- What the first of four bytes announces. The second has a range of its own after 0xf0 (overlong forms)
and 0xf4 (the end of the code space). -/
theorem lead?_four {n : Nat} (hlow : 0x10000 ≤ n) (hhigh : n < 0x110000) :
    ∃ lo hi, lead? (UInt8.ofNat (0xf0 + n / 0x40000)) = some (3, n / 0x40000, lo, hi) ∧
      lo ≤ 0x80 + n / 0x1000 % 0x40 ∧ 0x80 + n / 0x1000 % 0x40 ≤ hi := by
  have hb : (UInt8.ofNat (0xf0 + n / 0x40000)).toNat = 0xf0 + n / 0x40000 :=
    toNat_ofNat_of_lt (by omega)
  simp only [lead?, hb, beq_iff_eq]
  rw [if_neg (by omega), if_neg (by omega), if_neg (by omega), if_neg (by omega),
    if_neg (by omega), if_neg (by omega)]
  by_cases h0 : n / 0x40000 = 0
  · refine ⟨0x90, 0xbf, ?_, by omega, by omega⟩
    rw [if_pos (by omega), h0]
  by_cases h4 : n / 0x40000 = 4
  · refine ⟨0x80, 0x8f, ?_, by omega, by omega⟩
    rw [if_neg (by omega), if_neg (by omega), if_pos (by omega), h4]
  · refine ⟨0x80, 0xbf, ?_, by omega, by omega⟩
    rw [if_neg (by omega), if_pos (by omega), Nat.add_sub_cancel_left]

/-- What the bytes of a character announce: its first byte, and the tail that `continuation` reads
back to its number. -/
theorem encodeChar_eq (c : Char) : ∃ b tail count acc lo hi,
    encodeChar c = b :: tail ∧ tail.length = count ∧ lead? b = some (count, acc, lo, hi) ∧
      ∀ rest, continuation count lo hi acc (tail ++ rest) = .ok c.toNat := by
  have hv := toNat_valid c
  unfold encodeChar
  generalize c.toNat = n at hv
  dsimp only
  split
  · refine ⟨_, [], 0, n, 0, 0, rfl, rfl, ?_, fun _ => rfl⟩
    simp only [lead?, toNat_ofNat_of_lt (show n < 256 by omega)]
    rw [if_pos (by omega)]
  split
  · refine ⟨_, [_], 1, n / 0x40, 0x80, 0xbf, rfl, rfl, ?_, fun rest => ?_⟩
    · simp only [lead?, toNat_ofNat_of_lt (show 0xc0 + n / 0x40 < 256 by omega)]
      rw [if_neg (by omega), if_neg (by omega), if_pos (by omega), Nat.add_sub_cancel_left]
    · refine continuation_cons (by omega) (by omega) (by omega) ?_
      simp only [continuation]
      congr 1; omega
  split
  · obtain ⟨lo, hi, hl, hlo, hhi⟩ := lead?_three (n := n) (by omega) (by omega) (by omega)
    refine ⟨_, [_, _], 2, n / 0x1000, lo, hi, rfl, rfl, hl, fun rest => ?_⟩
    refine continuation_cons (by omega) hlo hhi ?_
    refine continuation_cons (by omega) (by omega) (by omega) ?_
    simp only [continuation]
    congr 1; omega
  · obtain ⟨lo, hi, hl, hlo, hhi⟩ := lead?_four (n := n) (by omega) (by omega)
    refine ⟨_, [_, _, _], 3, n / 0x40000, lo, hi, rfl, rfl, hl, fun rest => ?_⟩
    refine continuation_cons (by omega) hlo hhi ?_
    refine continuation_cons (by omega) (by omega) (by omega) ?_
    refine continuation_cons (by omega) (by omega) (by omega) ?_
    simp only [continuation]
    congr 1; omega

/-- The bytes of a character read back as that character, whatever follows. -/
theorem decodeChar_encodeChar (c : Char) : ∃ b tail, encodeChar c = b :: tail ∧
    ∀ rest, decodeChar b (tail ++ rest) = .ok (c, tail.length + 1) := by
  obtain ⟨b, tail, count, acc, lo, hi, he, hlen, hlead, hcont⟩ := encodeChar_eq c
  refine ⟨b, tail, he, fun rest => ?_⟩
  simp only [decodeChar, hlead, hcont, Char.ofNat_toNat, hlen]

/-! ## Texts -/

theorem decodeFrom_skip (skipped rest : Bytes) (position : Nat) :
    decodeFrom skipped.length position (skipped ++ rest) =
      decodeFrom 0 (position + skipped.length) rest := by
  induction skipped generalizing position with
  | nil => rfl
  | cons b skipped ih =>
    rw [List.length_cons, List.cons_append, decodeFrom, ih]
    congr 1; omega

theorem decodeFrom_encode (cs : List Char) (position : Nat) :
    decodeFrom 0 position (cs.flatMap encodeChar) = .ok cs := by
  induction cs generalizing position with
  | nil => rfl
  | cons c cs ih =>
    obtain ⟨b, tail, he, hd⟩ := decodeChar_encodeChar c
    rw [List.flatMap_cons, he, List.cons_append, decodeFrom, hd]
    simp only [Nat.add_sub_cancel]
    rw [decodeFrom_skip, ih]

/-- A text reads back from its bytes. -/
@[simp] theorem decode_encode (s : String) : decode (encode s) = .ok s := by
  simp only [decode, encode, decodeFrom_encode, Except.map, String.ofList_toList]

theorem encode_inj {s t : String} : encode s = encode t ↔ s = t := by
  refine ⟨fun h => ?_, fun h => h ▸ rfl⟩
  have hd : decode (encode s) = decode (encode t) := by rw [h]
  rw [decode_encode, decode_encode] at hd
  exact Except.ok.inj hd

/-! ## Beginnings -/

theorem encode_append (s t : String) : encode (s ++ t) = encode s ++ encode t := by
  simp [encode]

/-- Bytes that begin with a character tell which one it is. -/
theorem encodeChar_append_inj {c d : Char} {a b : Bytes}
    (h : encodeChar c ++ a = encodeChar d ++ b) : c = d ∧ a = b := by
  obtain ⟨x, tail, hc, hreadc⟩ := decodeChar_encodeChar c
  obtain ⟨y, tail', hd, hreadd⟩ := decodeChar_encodeChar d
  have hcd : c = d := by
    rw [hc, hd, List.cons_append, List.cons_append] at h
    obtain ⟨rfl, htail⟩ := List.cons.inj h
    have hread := hreadc a
    rw [htail, hreadd b] at hread
    exact (Prod.mk.inj (Except.ok.inj hread)).1.symm
  subst hcd
  exact ⟨rfl, List.append_cancel_left h⟩

theorem prefix_of_flatMap_append {cs ds : List Char} {rest : Bytes}
    (h : cs.flatMap encodeChar ++ rest = ds.flatMap encodeChar) : cs <+: ds := by
  induction cs generalizing ds with
  | nil => exact List.nil_prefix
  | cons c cs ih =>
    rw [List.flatMap_cons, List.append_assoc] at h
    cases ds with
    | nil =>
      obtain ⟨b, tail, hc, -⟩ := decodeChar_encodeChar c
      rw [hc] at h
      cases h
    | cons d ds =>
      rw [List.flatMap_cons] at h
      obtain ⟨rfl, hrest⟩ := encodeChar_append_inj h
      exact List.cons_prefix_cons.mpr ⟨rfl, ih hrest⟩

/-- A text begins with another exactly when its bytes begin with those of the other. -/
theorem encode_prefix_iff {s t : String} : encode s <+: encode t ↔ s.toList <+: t.toList := by
  constructor
  · rintro ⟨rest, h⟩
    exact prefix_of_flatMap_append h
  · rintro ⟨rest, h⟩
    refine ⟨rest.flatMap encodeChar, ?_⟩
    unfold encode
    rw [← h, List.flatMap_append]

end Leasehold.Utf8

import Leasehold.Proofs.Json.RoundTrip
import Leasehold.Proofs.Number.Numeral

/-!
# Plain values are read back

- **Whole numbers** (`Json.readBack_int`): a whole number that is not too long is read back from its
  decimal form.
- **Arrays** (`Json.readBack_array`): so is an array of values that are.
- **Plain values** (`Json.Plain`): null, truth values, whole numbers, texts, arrays and objects, nested
  to any depth. All of them can be written (`Json.Plain.isWritable`) and are read back
  (`Json.Plain.readBack`).
-/

namespace Leasehold.Json

open Numeral (isDigit signOf)

/-! ## Whole numbers -/

/-- No digit comes behind a value. -/
theorem Closes.not_digit {c : Char} {rest : List Char} (h : Closes (c :: rest)) :
    isDigit c = false := by
  rcases h with rfl | rfl | rfl <;> rfl

theorem takeWhile_digits {digits rest : List Char} (hd : ∀ c ∈ digits, isDigit c = true)
    (h : Closes rest) : (digits ++ rest).takeWhile isDigit = digits := by
  rw [List.takeWhile_append_of_pos hd]
  cases rest with
  | nil => rw [List.takeWhile_nil, List.append_nil]
  | cons c rest => rw [List.takeWhile_cons_of_neg (by simp [h.not_digit]), List.append_nil]

theorem Closes.fractionPart {rest : List Char} (h : Closes rest) : fractionPart rest = [] := by
  cases rest with
  | nil => rfl
  | cons c rest => rcases h with rfl | rfl | rfl <;> rfl

theorem Closes.exponentPart {rest : List Char} (h : Closes rest) : exponentPart rest = [] := by
  cases rest with
  | nil => rfl
  | cons c rest => rcases h with rfl | rfl | rfl <;> rfl

theorem wholePart?_toDigits (n : Nat) {rest : List Char} (h : Closes rest) :
    wholePart? (Nat.toDigits 10 n ++ rest) = some (Nat.toDigits 10 n) := by
  have hdigits : ∀ c ∈ Nat.toDigits 10 n, isDigit c = true :=
    fun c => Numeral.isDigit_of_mem_toDigits
  have htake := takeWhile_digits hdigits h
  rcases Nat.eq_zero_or_pos n with rfl | hn
  · rfl
  · obtain ⟨d, ds, hds, hd⟩ := Numeral.toDigits_start n
    have hzero : d ≠ '0' := by
      rintro rfl
      exact Numeral.head_toDigits hn (by rw [hds]; rfl)
    rw [hds, List.cons_append] at htake ⊢
    rw [wholePart?]
    · rw [if_pos hd, htake]
    · exact hzero

theorem splitMinus_digits (n : Int) (rest : List Char) :
    splitMinus (signOf n ++ (Nat.toDigits 10 n.natAbs ++ rest)) =
      (signOf n, Nat.toDigits 10 n.natAbs ++ rest) := by
  unfold signOf
  split
  · rfl
  · obtain ⟨d, ds, hds, hd⟩ := Numeral.toDigits_start n.natAbs
    -- A digit is no sign.
    rw [hds, List.nil_append, List.cons_append, splitMinus]
    intro rest heq
    obtain rfl := (List.cons.inj heq).1
    cases hd

theorem write_int (n : Int) : (int n).write = signOf n ++ Nat.toDigits 10 n.natAbs := by
  rw [write, Numeral.toList_toString]

theorem splitNumber_write (n : Int) {rest : List Char} (h : Closes rest) :
    splitNumber ((int n).write ++ rest) = some ((int n).write, [], []) := by
  rw [write_int, List.append_assoc, splitNumber, splitMinus_digits]
  simp only [wholePart?_toDigits _ h, Option.bind_eq_bind, Option.bind_some, List.drop_left,
    h.fractionPart, List.length_nil, List.drop_zero, h.exponentPart]

theorem readNumber_write {n : Int} (hn : (int n).isWritable = true) (position : Nat)
    {rest : List Char} (h : Closes rest) :
    readNumber ⟨position, (int n).write ++ rest⟩ =
      .ok (.int n, ⟨position + (int n).write.length, rest⟩) := by
  have hread : Numeral.integer? (int n).write = some n := by
    rw [write]
    exact Numeral.integer?_toString (of_decide_eq_true hn)
  rw [readNumber]
  simp only [splitNumber_write n h, hread, List.isEmpty_nil, Bool.and_self, if_true,
    List.length_nil, Nat.add_zero, Cursor.skip, List.drop_left]

/-- The decimal form starts with a digit, or with a minus sign and a digit. -/
theorem write_int_start (n : Int) : ∃ d ds, isDigit d = true ∧
    ((int n).write = d :: ds ∨ (int n).write = '-' :: d :: ds) := by
  obtain ⟨d, ds, hds, hd⟩ := Numeral.toDigits_start n.natAbs
  refine ⟨d, ds, hd, ?_⟩
  rw [write_int, hds, signOf]
  split
  · exact .inr rfl
  · exact .inl rfl

/-- A whole number is none of the words. -/
theorem readWord_write (n : Int) (position : Nat) (rest : List Char) :
    readWord ⟨position, (int n).write ++ rest⟩ = readNumber ⟨position, (int n).write ++ rest⟩ := by
  obtain ⟨d, ds, hd, hw⟩ := write_int_start n
  have ne {c : Char} (hc : isDigit c = false) : (c == d) = false := by
    rw [beq_eq_false_iff_ne]
    rintro rfl
    exact absurd (hd.symm.trans hc) (by decide)
  have hn := ne (show isDigit 'n' = false by rfl)
  have ht := ne (show isDigit 't' = false by rfl)
  have hf := ne (show isDigit 'f' = false by rfl)
  have hN := ne (show isDigit 'N' = false by rfl)
  have hI := ne (show isDigit 'I' = false by rfl)
  have hm := ne (show isDigit '-' = false by rfl)
  unfold readWord
  rcases hw with hw | hw
  all_goals
    simp only [hw, List.cons_append, List.isPrefixOf, String.reduceToList, hn, ht, hf, hN, hI, hm,
      Bool.false_and]
    rfl

theorem isVisible_of_isDigit {c : Char} (h : isDigit c = true) : IsVisible c := by
  simp only [isDigit, Bool.and_eq_true, decide_eq_true_eq] at h
  have h₁ : 48 ≤ c.toNat := h.1
  have h₂ : c.toNat ≤ 57 := h.2
  exact ⟨by omega, by omega⟩

theorem readValue_word (fuel : Nat) {k : Cursor} {c : Char} {cs : List Char} (hk : k.rest = c :: cs)
    (hq : c ≠ '"') (hb : c ≠ '[') (hm : c ≠ '\x7b') : readValue (fuel + 1) k = readWord k := by
  rw [readValue, hk]
  split
  · exact absurd (List.cons.inj ‹_›).1 hq
  · exact absurd (List.cons.inj ‹_›).1 hb
  · exact absurd (List.cons.inj ‹_›).1 hm
  · rfl

theorem readBack_int {n : Int} (hn : (int n).isWritable = true) : ReadBack (.int n) := by
  obtain ⟨d, ds, hd, hw⟩ := write_int_start n
  refine ⟨?_, fun fuel position rest hf h => ?_⟩
  · rcases hw with hw | hw
    · exact ⟨_, _, hw, isVisible_of_isDigit hd⟩
    · exact ⟨_, _, hw, by decide⟩
  · cases fuel with
    | zero => rcases hw with hw | hw <;> rw [hw] at hf <;> cases hf
    | succ fuel =>
      have hword : readValue (fuel + 1) ⟨position, (int n).write ++ rest⟩ =
          readWord ⟨position, (int n).write ++ rest⟩ := by
        rcases hw with hw | hw
        · refine readValue_word fuel (congrArg (· ++ rest) hw) ?_ ?_ ?_
          all_goals
            rintro rfl
            cases hd
        · exact readValue_word fuel (congrArg (· ++ rest) hw) (by decide) (by decide) (by decide)
      rw [hword, readWord_write, readNumber_write hn position h]

/-! ## Arrays -/

/-- Reads on behind an item of an array. -/
def readItemsBehind (fuel : Nat) (v : Json) (k : Cursor) : Except ReadError (List Json × Cursor) :=
  match k.rest with
  | ']' :: _ => .ok ([v], k.skip 1)
  | ',' :: _ => do
    let (items, k) ← readItems fuel (k.skip 1).skipSpaces
    .ok (v :: items, k)
  | _ => k.fail .expectingComma

/-- An item of an array is read back, and what follows it is read next. -/
theorem readItems_write {v : Json} (hv : v.ReadBack) {fuel : Nat} (hf : v.write.length ≤ fuel)
    (position : Nat) {c : Char} (hc : c = ',' ∨ c = ']') (rest : List Char) :
    readItems (fuel + 1) ⟨position, v.write ++ c :: rest⟩ =
      readItemsBehind fuel v ⟨position + v.write.length, c :: rest⟩ := by
  have hcloses : Closes (c :: rest) := hc.imp id .inl
  have hspace : Cursor.isSpace c = false := by rcases hc with rfl | rfl <;> decide
  rw [readItems, hv.read _ _ _ hf hcloses]
  show readItemsBehind fuel v (Cursor.skipSpaces ⟨_, c :: rest⟩) = _
  rw [skipSpaces_of_not hspace]

theorem writeItems_cons (v w : Json) (items : List Json) :
    writeItems (v :: w :: items) = v.write ++ (',' :: ' ' :: writeItems (w :: items)) := rfl

/-- No value starts with a closing bracket, since none is read there. -/
theorem ReadBack.start_ne_bracket {v : Json} (h : v.ReadBack) {c : Char} {cs : List Char}
    (hw : v.write = c :: cs) : c ≠ ']' := by
  rintro rfl
  have hread := h.read (v.write.length + 1) 0 [] (Nat.le_succ _) trivial
  rw [hw] at hread
  cases hread

theorem writeItems_start {v : Json} (hv : v.ReadBack) (items : List Json) :
    ∃ c cs, writeItems (v :: items) = c :: cs ∧ IsVisible c ∧ c ≠ ']' := by
  obtain ⟨c, cs, hw, hc⟩ := hv.start
  have hbracket := hv.start_ne_bracket hw
  cases items with
  | nil => exact ⟨c, cs, hw, hc, hbracket⟩
  | cons w items => exact ⟨c, _, by rw [writeItems_cons, hw]; rfl, hc, hbracket⟩

/-- The items of an array are read back, in their order, up to the closing bracket. -/
theorem readItems_writeItems {items : List Json} (hne : items ≠ [])
    (h : ∀ v ∈ items, v.ReadBack) (fuel position : Nat) (rest : List Char)
    (hf : (writeItems items).length < fuel) :
    readItems fuel ⟨position, writeItems items ++ ']' :: rest⟩ =
      .ok (items, ⟨position + (writeItems items).length + 1, rest⟩) := by
  induction items generalizing fuel position with
  | nil => exact absurd rfl hne
  | cons v items ih =>
    have hv := h v List.mem_cons_self
    obtain ⟨fuel, rfl⟩ : ∃ f, fuel = f + 1 := ⟨fuel - 1, by omega⟩
    cases items with
    | nil =>
      have hlen : v.write.length ≤ fuel := Nat.lt_succ_iff.mp hf
      exact readItems_write hv hlen position (.inr rfl) rest
    | cons w items =>
      obtain ⟨c, cs, hcs, hc, -⟩ := writeItems_start (h w (by simp)) items
      rw [writeItems_cons, List.length_append, List.length_cons, List.length_cons] at hf
      have hrest := ih (List.cons_ne_nil _ _) (fun u hu => h u (List.mem_cons_of_mem _ hu)) fuel
        (position + v.write.length + 1 + 1) (by omega)
      rw [writeItems_cons, List.append_assoc, List.cons_append, List.cons_append,
        readItems_write hv (by omega) position (.inl rfl)]
      show (readItems fuel (Cursor.skipSpaces ⟨_, ' ' :: (writeItems (w :: items) ++ _)⟩) >>= fun r =>
        Except.ok (v :: r.1, r.2)) = _
      rw [skipSpaces_space, hcs, List.cons_append, skipSpaces_of_not hc.isSpace, ← List.cons_append,
        ← hcs, hrest]
      simp only [List.length_append, List.length_cons]
      show Except.ok (v :: w :: items, (⟨_, rest⟩ : Cursor)) = _
      congr 3
      omega

theorem readBack_array {items : List Json} (h : ∀ v ∈ items, v.ReadBack) :
    ReadBack (.array items) := by
  refine ⟨⟨_, _, rfl, by decide⟩, fun fuel position rest hf _ => ?_⟩
  cases fuel with
  | zero => cases hf
  | succ fuel =>
    cases items with
    | nil => rfl
    | cons v items =>
      obtain ⟨c, cs, hcs, hc, hbracket⟩ := writeItems_start (h v List.mem_cons_self) items
      simp only [write, List.length_cons, List.length_append, List.length_nil] at hf
      have hread := readItems_writeItems (List.cons_ne_nil v items) h fuel (position + 1) rest
        (by omega)
      have hskip : Cursor.skipSpaces ⟨position + 1, writeItems (v :: items) ++ ']' :: rest⟩ =
          ⟨position + 1, writeItems (v :: items) ++ ']' :: rest⟩ := by
        rw [hcs]
        exact skipSpaces_of_not hc.isSpace _ _
      simp only [write, List.cons_append, List.append_assoc, List.nil_append, readValue]
      simp only [Cursor.skip, List.drop_succ_cons, List.drop_zero, hskip, hread]
      rw [hcs, List.cons_append]
      split
      · exact absurd (List.cons.inj ‹_›).1 hbracket
      · simp only [List.length_cons, List.length_append, List.length_nil]
        show Except.ok (array (v :: items), (⟨_, rest⟩ : Cursor)) = _
        congr 3
        omega

/-! ## Plain values -/

/-- The values without floating-point numbers, with whole numbers that are not too long, with
characters only in their strings, and with one member for each name in their objects. -/
inductive Plain : Json → Prop where
  | null : Plain .null
  | bool (b : Bool) : Plain (.bool b)
  | int {n : Int} (short : (Nat.toDigits 10 n.natAbs).length ≤ Numeral.integerDigitLimit) :
      Plain (.int n)
  | string {s : List CodePoint} (characters : AreCharacters s) : Plain (.string s)
  | array {items : List Json} (plain : ∀ v ∈ items, Plain v) : Plain (.array items)
  | object {members : List (List CodePoint × Json)} (characters : ∀ m ∈ members, AreCharacters m.1)
      (plain : ∀ m ∈ members, Plain m.2) (distinct : (members.map (·.1)).Nodup) :
      Plain (.object members)

theorem areWritable_iff {items : List Json} :
    areWritable items = true ↔ ∀ v ∈ items, v.isWritable = true := by
  induction items with
  | nil => simp [areWritable]
  | cons v items ih => simp [areWritable, ih]

theorem areMembersWritable_iff {members : List (List CodePoint × Json)} :
    areMembersWritable members = true ↔ ∀ m ∈ members, m.2.isWritable = true := by
  induction members with
  | nil => simp [areMembersWritable]
  | cons m members ih => simp [areMembersWritable, ih]

variable {v : Json}

theorem Plain.isWritable (h : v.Plain) : v.isWritable = true := by
  induction h with
  | null => rfl
  | bool => rfl
  | int short => exact decide_eq_true short
  | string => rfl
  | array _ ih => rw [Json.isWritable, areWritable_iff]; exact ih
  | object _ _ _ ih => rw [Json.isWritable, areMembersWritable_iff]; exact ih

theorem Plain.readBack (h : v.Plain) : v.ReadBack := by
  induction h with
  | null => exact readBack_null
  | bool b => exact readBack_bool b
  | int short => exact readBack_int (decide_eq_true short)
  | string characters => exact readBack_string characters
  | array _ ih => exact readBack_array ih
  | object characters _ distinct ih =>
    exact readBack_object (fun m hm => ⟨characters m hm, ih m hm⟩) distinct

end Leasehold.Json

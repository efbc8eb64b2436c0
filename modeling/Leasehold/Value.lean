import Leasehold.Number.Numeral
import Leasehold.Number.Shortest
import Leasehold.Text.Utf8

/-!
# Dynamic values

What callers pass where any value may come: lock parameters, command arguments, the data that
settings are made from, and the replies of the store.

- **The values** (`Value`): a mapping keeps its entries in the order in which their keys came.
- **Truth** (`isTruthy`): zero, NaN excepted, and whatever is empty count as false.
- **Quoted form** (`quoted`): how a message shows a value, as long as no whole number in it is too long
  (`isWritable`).
-/

namespace Leasehold

/-- A value of any kind. -/
inductive Value where
  | null
  | bool (b : Bool)
  | int (n : Int)
  | float (x : Binary64)
  | text (s : String)
  | bytes (b : Bytes)
  /-- A calendar date or a point in time, as a document writes it. -/
  | date (written : String)
  | list (items : List Value)
  | mapping (entries : List (Value × Value))
deriving Repr, Inhabited

namespace Value

/-- Whether the value counts as true. -/
def isTruthy : Value → Bool
  | null => false
  | bool b => b
  | int n => n != 0
  | float x => !x.isZero
  | text s => !s.isEmpty
  | bytes b => !b.isEmpty
  | date _ => true
  | list items => !items.isEmpty
  | mapping entries => !entries.isEmpty

/-- One byte of a quoted byte string. -/
def quotedByte (quote : Char) (b : UInt8) : List Char :=
  let c := Char.ofNat b.toNat
  if c == '\\' || c == quote then ['\\', c]
  else if c == '\t' then ['\\', 't']
  else if c == '\n' then ['\\', 'n']
  else if c == '\r' then ['\\', 'r']
  else if 0x20 ≤ b.toNat ∧ b.toNat < 0x7f then [c]
  else '\\' :: 'x' :: Text.hexDigits 2 b.toNat

/-- A byte string between quotes. -/
def quotedBytes (b : Bytes) : String :=
  let quote := Text.quoteOf (b.map fun x => Char.ofNat x.toNat)
  String.ofList ('b' :: quote :: (b.flatMap (quotedByte quote) ++ [quote]))

mutual

/-- A value as a message shows it. -/
def quoted : Value → String
  | null => "None"
  | bool b => if b then "True" else "False"
  | int n => toString n
  | float x => x.text
  | text s => Text.quoted s
  | bytes b => quotedBytes b
  | date written => written
  | list items => "[" ++ String.intercalate ", " (quotedItems items) ++ "]"
  | mapping entries => "\x7b" ++ String.intercalate ", " (quotedEntries entries) ++ "\x7d"

/-- The items of a list as a message shows them. -/
def quotedItems : List Value → List String
  | [] => []
  | v :: rest => quoted v :: quotedItems rest

/-- The entries of a mapping as a message shows them. -/
def quotedEntries : List (Value × Value) → List String
  | [] => []
  | (k, v) :: rest => (quoted k ++ ": " ++ quoted v) :: quotedEntries rest

end

mutual

/-- Whether no whole number in a value has too many digits. -/
def isWritable : Value → Bool
  | int n => Numeral.isWritable n
  | list items => areWritable items
  | mapping entries => areEntriesWritable entries
  | _ => true

/-- Whether no whole number in the items of a list has too many digits. -/
def areWritable : List Value → Bool
  | [] => true
  | v :: rest => isWritable v && areWritable rest

/-- Whether no whole number in the entries of a mapping has too many digits. -/
def areEntriesWritable : List (Value × Value) → Bool
  | [] => true
  | (k, v) :: rest => isWritable k && isWritable v && areEntriesWritable rest

end

/-- The value that a mapping holds under a text key. -/
def field? (name : String) : Value → Option Value
  | mapping entries =>
    (entries.find? fun e => match e.1 with | text s => s == name | _ => false).map (·.2)
  | _ => none

end Value
end Leasehold

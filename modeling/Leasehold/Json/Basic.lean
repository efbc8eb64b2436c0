import Leasehold.Number.Binary64

/-!
# JSON values

- **Code points** (`CodePoint`): a JSON text may escape one half of a surrogate pair, so its
  strings hold characters and lone surrogates.
- **Values** (`Json`): whole numbers and floating-point numbers are kept apart; an object keeps
  its members in order, one for each name (`Json.setMember`).
-/

namespace Leasehold

/-- A character, or one of the 2048 surrogates, counted from U+D800. -/
inductive CodePoint where
  | scalar (c : Char)
  | surrogate (index : Fin 2048)
deriving DecidableEq, Repr

namespace CodePoint

/-- The number of the code point. -/
def toNat : CodePoint → Nat
  | scalar c => c.toNat
  | surrogate i => 0xd800 + i.val

/-- The code point with a number. -/
def ofNat (n : Nat) : CodePoint :=
  if h : 0xd800 ≤ n ∧ n < 0xe000 then surrogate ⟨n - 0xd800, by omega⟩ else scalar (Char.ofNat n)

/-- The code points of a text. -/
def ofString (s : String) : List CodePoint := s.toList.map scalar

/-- The character, or the replacement character for a surrogate. -/
def toChar : CodePoint → Char
  | scalar c => c
  | surrogate _ => Char.ofNat 0xfffd

/-- The text of a list of code points; a lone surrogate is replaced. -/
def toString (ps : List CodePoint) : String := String.ofList (ps.map toChar)

end CodePoint

/-- A JSON value. -/
inductive Json where
  | null
  | bool (b : Bool)
  | int (n : Int)
  | float (x : Binary64)
  | string (s : List CodePoint)
  | array (items : List Json)
  | object (members : List (List CodePoint × Json))
deriving Repr, Inhabited

namespace Json

/-- A string value. -/
def text (s : String) : Json := string (CodePoint.ofString s)

/-- Sets a member: a name that is there keeps its place, a new one goes to the end. -/
def setMember (name : List CodePoint) (value : Json) :
    List (List CodePoint × Json) → List (List CodePoint × Json)
  | [] => [(name, value)]
  | (n, v) :: rest =>
    if n = name then (n, value) :: rest else (n, v) :: setMember name value rest

/-- The member of an object with a name. -/
def member? (name : String) : Json → Option Json
  | object members => (members.find? fun m => m.1 == CodePoint.ofString name).map (·.2)
  | _ => none

end Json
end Leasehold

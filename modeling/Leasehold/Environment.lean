import Leasehold.Failure.Basic
import Leasehold.Text.Blank
import Leasehold.Text.Letter

/-!
# Environment variables

Blanks around a value do not count, and a blank value is the same as none.

- **Text** (`Environment.text?`): the value without the blanks around it.
- **Flags** (`Environment.flag?`): every value is true but four words in letters of any size.
- **Numbers** (`Environment.int?`, `Environment.float?`): what is no number is a failure that names
  the variable and shows the value.
-/

namespace Leasehold

/-- The variables of a process. -/
structure Environment where
  bindings : List (String × String)

namespace Environment

/-- A variable as it was set. -/
def raw? (e : Environment) (name : String) : Option String := e.bindings.lookup name

/-- The value of a variable, unless it is blank. -/
def text? (e : Environment) (name : String) : Option String :=
  match e.raw? name with
  | none => none
  | some raw =>
    let value := Text.trim raw
    if value.isEmpty then none else some value

/-- The words that mean false. -/
def falseWords : List String := ["0", "false", "no", "off"]

/-- The flag that a variable sets. -/
def flag? (e : Environment) (name : String) : Option Bool :=
  (e.text? name).map fun value => !falseWords.contains (Text.toSmall value)

/-- The number that a variable writes, or the failure for one that writes none. -/
def number? {α : Type} (e : Environment) (name requirement : String) (read : String → Option α) :
    Except Failure (Option α) :=
  match e.text? name with
  | none => .ok none
  | some value =>
    match read value with
    | some a => .ok (some a)
    | none =>
      .error (.plain .value (name ++ " must be " ++ requirement ++ ", got " ++ Text.quoted value))

/-- The whole number that a variable writes. -/
def int? (e : Environment) (name : String) : Except Failure (Option Int) :=
  e.number? name "an integer" Numeral.readInteger?

/-- The number that a variable writes. -/
def float? (e : Environment) (name : String) : Except Failure (Option Binary64) :=
  e.number? name "a number" Numeral.readDecimal?

end Environment
end Leasehold

import Leasehold.Text.Percent
import Leasehold.Url.Basic

/-!
# Queries

- **Fields** (`Url.fields`): names and values between ampersands; a field without a value does not
  count. A plus sign is a space.
- **First values** (`Url.firstFields`): of several values of a name the first counts.
-/

namespace Leasehold.Url

/-- The text of a name or of a value in a query. -/
def fieldText (cs : List Char) : String :=
  Percent.decode (String.ofList (cs.map fun c => if c == '+' then ' ' else c))

/-- One field of a query. -/
def field? (cs : List Char) : Option (String × String) :=
  match cut '=' cs with
  | (name, some value) => if value.isEmpty then none else some (fieldText name, fieldText value)
  | (_, none) => none

/-- The fields of a query. -/
def fields (u : Url) : List (String × String) := (u.query.splitOn '&').filterMap field?

/-- The entries of a list without those whose name came before. -/
def firstOf (seen : List String) : List (String × String) → List (String × String)
  | [] => []
  | (name, value) :: rest =>
    if seen.contains name then firstOf seen rest
    else (name, value) :: firstOf (name :: seen) rest

/-- The first value of every name. -/
def firstFields (u : Url) : List (String × String) := firstOf [] u.fields

end Leasehold.Url

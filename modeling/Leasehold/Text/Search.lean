/-!
# Searching text

- **Parts** (`isPart`): whether a text holds another one.
-/

namespace Leasehold.Text

/-- Whether the characters of one text stand together in another. -/
def isPart (part : List Char) : List Char → Bool
  | [] => part.isEmpty
  | c :: rest => part.isPrefixOf (c :: rest) || isPart part rest

end Leasehold.Text

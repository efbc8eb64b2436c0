import Leasehold.Failure.Kind
import Leasehold.Text.Digit

/-!
# Places in a document

- **Faults** (`Fault`): why a document cannot be read.
- **Places** (`Cursor`): the characters to come, with their index, line and column. A line feed, a
  carriage return with or without one, U+0085, U+2028 and U+2029 end a line; a byte order mark takes
  no column.
- **Classes of characters** (`isBreak`, `isBlank`, `isGap`): the end of the document counts with the
  blanks wherever a word may end.
-/

namespace Leasehold.Yaml

/-- Why a document cannot be read. -/
inductive Fault where
  /-- It does not keep to the rules of the format. -/
  | malformed
  /-- It writes a value that does not exist, such as a thirteenth month. -/
  | value (message : String)
  /-- It holds a scalar that is nothing of the sort its tag says, or a number that is far too large, in an
  escape or in base 60; a failure of some other kind. -/
  | mistagged (kind : Kind) (message : String)
  /-- Its collections are nested more deeply than the reader can follow. -/
  | overnested
deriving DecidableEq, Repr

/-- Either a fault or what was read. -/
abbrev Read (α : Type) := Except Fault α

/-- The character that stands for the end of a document; no document holds it. -/
def endMark : Char := '\x00'

/-- The byte order mark. -/
def byteOrderMark : Char := Char.ofNat 0xfeff

/-- The separators of lines and of paragraphs, which stay what they are when lines are joined. -/
def isSeparator (c : Char) : Bool := c.toNat == 0x2028 || c.toNat == 0x2029

/-- A character that ends a line. -/
def isBreak (c : Char) : Bool := c == '\n' || c == '\r' || c.toNat == 0x85 || isSeparator c

/-- A space or a tab. -/
def isBlank (c : Char) : Bool := c == ' ' || c == '\t'

/-- The end of a line or of the document. -/
def isLineEnd (c : Char) : Bool := isBreak c || c == endMark

/-- What may follow a word: a space, the end of the line or of the document. -/
def isStop (c : Char) : Bool := c == ' ' || isLineEnd c

/-- What may follow an indicator: a stop or a tab. -/
def isGap (c : Char) : Bool := isBlank c || isLineEnd c

/-- The characters of names. -/
def isWord (c : Char) : Bool := c.isAlphanum || c == '-' || c == '_'

/-- A place in a document. -/
structure Cursor where
  rest : List Char
  index : Nat := 0
  line : Nat := 0
  column : Nat := 0

namespace Cursor

/-- The character here. -/
def peek (k : Cursor) : Char := k.rest.headD endMark

/-- The character `n` places further. -/
def peekAt (k : Cursor) (n : Nat) : Char := (k.rest.drop n).headD endMark

/-- Whether the document ends here. -/
def isAtEnd (k : Cursor) : Bool := k.rest.isEmpty

/-- The next place. -/
def next (k : Cursor) : Cursor :=
  match k.rest with
  | [] => k
  | c :: rest =>
    if isBreak c && !(c == '\r' && rest.head? == some '\n') then ⟨rest, k.index + 1, k.line + 1, 0⟩
    else if c == byteOrderMark then ⟨rest, k.index + 1, k.line, k.column⟩
    else ⟨rest, k.index + 1, k.line, k.column + 1⟩

/-- The place `n` characters further. -/
def skip (k : Cursor) : Nat → Cursor
  | 0 => k
  | n + 1 => k.next.skip n

/-- The characters from here on that belong to a class, and the place behind them. -/
def span (k : Cursor) (p : Char → Bool) : List Char × Cursor :=
  let cs := k.rest.takeWhile p
  (cs, k.skip cs.length)

/-- The place behind the characters of a class. -/
def skipWhile (k : Cursor) (p : Char → Bool) : Cursor := (k.span p).2

/-- The end of a line here, as one character, and the place behind it. -/
def lineBreak (k : Cursor) : Char × Cursor :=
  match k.rest with
  | '\r' :: '\n' :: _ => ('\n', k.skip 2)
  | c :: _ => (if isSeparator c then c else '\n', k.next)
  | [] => ('\n', k)

/-- Whether three given characters and a gap come next. -/
def isAtMark (k : Cursor) (mark : Char) : Bool :=
  [mark, mark, mark].isPrefixOf k.rest && isGap (k.peekAt 3)

/-- Whether the mark of the start or of the end of a document comes next. -/
def isAtDocumentMark (k : Cursor) : Bool := k.isAtMark '-' || k.isAtMark '.'

end Cursor
end Leasehold.Yaml

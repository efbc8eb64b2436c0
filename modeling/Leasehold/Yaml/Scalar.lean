import Leasehold.Json.Parser
import Leasehold.Text.Utf8
import Leasehold.Yaml.Cursor

/-!
# Scalars

The written forms of a piece of text.

- **Folding** (`folded`): a single end of a line becomes a space; of several the first vanishes.
- **Plain** (`plain`): ends at a comment, at a colon before a gap, inside brackets also at their
  indicators, and where a line is indented too little.
- **Quoted** (`quoted`): single quotes know one escape, double quotes many.
- **Block** (`block`): the lines of an indented block, kept or folded.
-/

namespace Leasehold.Yaml

/-- The ends of lines between two words, the first of them apart, as the text has them. -/
def folded (first : Char) (more : List Char) : List Char :=
  (if first != '\n' then [first] else if more.isEmpty then [' '] else []) ++ more

/-! ## Plain -/

/-- Whether a colon before these characters ends a plain scalar. -/
def endsKey (inFlow : Bool) (rest : List Char) : Bool :=
  let c := rest.headD endMark
  isGap c || (inFlow && [',', '[', ']', '\x7b', '\x7d'].contains c)

/-- The characters of one word of a plain scalar. -/
def plainRun (inFlow : Bool) : List Char → List Char
  | [] => []
  | c :: rest =>
    if isGap c || (c == ':' && endsKey inFlow rest) ||
        (inFlow && [',', '?', '[', ']', '\x7b', '\x7d'].contains c) then []
    else c :: plainRun inFlow rest

/-- The further empty lines behind the end of a line, with their indentation, or none if a document
mark follows; and the place behind them. -/
def plainBreaks : Nat → Cursor → Option (List Char) × Cursor
  | 0, k => (some [], k)
  | fuel + 1, k =>
    let k := k.skipWhile (· == ' ')
    if isBreak k.peek then
      let (b, k) := k.lineBreak
      if k.isAtDocumentMark then (none, k)
      else
        let (bs, k) := plainBreaks fuel k
        (bs.map (b :: ·), k)
    else (some [], k)

/-- What stands between two words of a plain scalar, whether a line ended, and the place behind it.
Nothing stands there if the scalar ends. -/
def plainGap (k : Cursor) : List Char × Bool × Cursor :=
  let (spaces, k) := k.span (· == ' ')
  if isBreak k.peek then
    let (b, k) := k.lineBreak
    if k.isAtDocumentMark then ([], true, k)
    else
      match plainBreaks k.rest.length k with
      | (none, k) => ([], true, k)
      | (some bs, k) => (folded b bs, true, k)
  else (spaces, false, k)

/-- The words of a plain scalar from here on, behind the gap `before`; whether a line ended behind
the last of them; and the place there. -/
def plainFrom (inFlow : Bool) (indent : Int) :
    Nat → List Char → Bool → Cursor → List Char × Bool × Cursor
  | 0, _, crossed, k => ([], crossed, k)
  | fuel + 1, before, crossed, k =>
    let run := if k.peek == '#' then [] else plainRun inFlow k.rest
    if run.isEmpty then ([], crossed, k)
    else
      let (gap, crossed, k) := plainGap (k.skip run.length)
      if gap.isEmpty || k.peek == '#' || (!inFlow && decide ((k.column : Int) < indent)) then
        (before ++ run, crossed, k)
      else
        let (more, crossed, k) := plainFrom inFlow indent fuel gap crossed k
        (before ++ run ++ more, crossed, k)

/-- A plain scalar whose further lines are indented by at least `indent`. -/
def plain (inFlow : Bool) (indent : Int) (k : Cursor) : List Char × Bool × Cursor :=
  plainFrom inFlow indent (k.rest.length + 1) [] false k

/-! ## Quoted -/

/-- The character of an escape of one letter. -/
def letterEscape? : Char → Option Char
  | '0' => some '\x00'
  | 'a' => some '\x07'
  | 'b' => some '\x08'
  | 't' => some '\t'
  | '\t' => some '\t'
  | 'n' => some '\n'
  | 'v' => some '\x0b'
  | 'f' => some '\x0c'
  | 'r' => some '\r'
  | 'e' => some '\x1b'
  | ' ' => some ' '
  | '"' => some '"'
  | '\\' => some '\\'
  | '/' => some '/'
  | 'N' => some (Char.ofNat 0x85)
  | '_' => some (Char.ofNat 0xa0)
  | 'L' => some (Char.ofNat 0x2028)
  | 'P' => some (Char.ofNat 0x2029)
  | _ => none

/-- The number of digits of an escape by number. -/
def numberEscape? : Char → Option Nat
  | 'x' => some 2
  | 'u' => some 4
  | 'U' => some 8
  | _ => none

/-- The number that hexadecimal digits write. -/
def hexNumber? (ds : List Char) : Option Nat :=
  ds.foldl (fun n c => n.bind fun n => (Json.hexValue? c).map (n * 16 + ·)) (some 0)

/-- The character with a number; one half of a surrogate pair is replaced. A number of more than 31
bits is a fault of its own. -/
def charOf (n : Nat) : Read Char :=
  if 0x80000000 ≤ n then .error (.mistagged .overflow "Python int too large to convert to C int")
  else if 0x110000 ≤ n then .error (.value "chr() arg not in range(0x110000)")
  else if 0xd800 ≤ n ∧ n < 0xe000 then .ok (Char.ofNat 0xfffd)
  else .ok (Char.ofNat n)

/-- The empty lines and the indentation behind the end of a line between quotes. -/
def quotedBreaks : Nat → Cursor → Read (List Char × Cursor)
  | 0, _ => .error .malformed
  | fuel + 1, k =>
    if k.isAtDocumentMark then .error .malformed
    else
      let k := k.skipWhile isBlank
      if isBreak k.peek then do
        let (b, k) := k.lineBreak
        let (bs, k) ← quotedBreaks fuel k
        .ok (b :: bs, k)
      else .ok ([], k)

/-- The blanks and ends of lines between two words between quotes. -/
def quotedGap (k : Cursor) : Read (List Char × Cursor) :=
  let (blanks, k) := k.span isBlank
  if isBreak k.peek then do
    let (b, k) := k.lineBreak
    let (bs, k) ← quotedBreaks (k.rest.length + 1) k
    .ok (folded b bs, k)
  else .ok (blanks, k)

/-- What an escape behind a backslash stands for. -/
def escape (k : Cursor) : Read (List Char × Cursor) :=
  match letterEscape? k.peek, numberEscape? k.peek with
  | some c, _ => .ok ([c], k.next)
  | none, some size => do
    let ds := k.next.rest.take size
    if ds.length < size then .error .malformed
    else
      match hexNumber? ds with
      | none => .error .malformed
      | some n =>
        let c ← charOf n
        .ok ([c], k.next.skip size)
  | none, none =>
    if isBreak k.peek then
      let (_, k) := k.lineBreak
      quotedBreaks (k.rest.length + 1) k
    else .error .malformed

/-- The text up to a closing quote, and the place behind it. -/
def quotedFrom (double : Bool) : Nat → Cursor → Read (List Char × Cursor)
  | 0, _ => .error .malformed
  | fuel + 1, k =>
    let c := k.peek
    if k.isAtEnd then .error .malformed
    else if !double && c == '\'' && k.peekAt 1 == '\'' then do
      let (cs, k) ← quotedFrom double fuel (k.skip 2)
      .ok ('\'' :: cs, k)
    else if c == (if double then '"' else '\'') then .ok ([], k.next)
    else if double && c == '\\' then do
      let (e, k) ← escape k.next
      let (cs, k) ← quotedFrom double fuel k
      .ok (e ++ cs, k)
    else if isBlank c || isBreak c then do
      let (gap, k) ← quotedGap k
      let (cs, k) ← quotedFrom double fuel k
      .ok (gap ++ cs, k)
    else do
      let (cs, k) ← quotedFrom double fuel k.next
      .ok (c :: cs, k)

/-- The text between the quotes that open here, and the place behind them. -/
def quoted (k : Cursor) : Read (List Char × Cursor) :=
  quotedFrom (k.peek == '"') (k.rest.length + 1) k.next

/-! ## Block -/

/-- What becomes of the ends of lines at the end of a block. -/
inductive Chomping where
  | strip
  | clip
  | keep

/-- The digit of an indentation, which is not zero. -/
def indentDigit (k : Cursor) : Read (Option Nat × Cursor) :=
  if '0' ≤ k.peek ∧ k.peek ≤ '9' then
    if k.peek == '0' then .error .malformed else .ok (some (k.peek.toNat - 0x30), k.next)
  else .ok (none, k)

/-- The mark for the end of a block. -/
def chompingMark (k : Cursor) : Option Chomping × Cursor :=
  if k.peek == '+' then (some .keep, k.next)
  else if k.peek == '-' then (some .strip, k.next)
  else (none, k)

/-- The marks behind the indicator of a block, in either order, and the rest of the line. -/
def blockHeader (k : Cursor) : Read (Chomping × Option Nat × Cursor) := do
  let (first, k) := chompingMark k
  let (indent, k) ← indentDigit k
  let (second, k) := if first.isNone && indent.isSome then chompingMark k else (none, k)
  if !isStop k.peek then .error .malformed
  let k := k.skipWhile (· == ' ')
  let k := if k.peek == '#' then k.skipWhile (!isLineEnd ·) else k
  if !isLineEnd k.peek then .error .malformed
  let k := if k.isAtEnd then k else k.lineBreak.2
  .ok ((first <|> second).getD .clip, indent, k)

/-- The empty lines in front of a block, its greatest indentation among them, and the place of its
first text. -/
def blockStart : Nat → Nat → Cursor → List Char × Nat × Cursor
  | 0, widest, k => ([], widest, k)
  | fuel + 1, widest, k =>
    if k.peek == ' ' then blockStart fuel (max widest k.next.column) k.next
    else if isBreak k.peek then
      let (b, k) := k.lineBreak
      let (bs, widest, k) := blockStart fuel widest k
      (b :: bs, widest, k)
    else ([], widest, k)

/-- Spaces up to the indentation of a block. -/
def skipIndent (indent : Int) : Nat → Cursor → Cursor
  | 0, k => k
  | fuel + 1, k =>
    if decide ((k.column : Int) < indent) && k.peek == ' ' then skipIndent indent fuel k.next else k

/-- The empty lines of a block, up to the indentation of the next line with text. -/
def blockBreaks (indent : Int) : Nat → Cursor → List Char × Cursor
  | 0, k => ([], k)
  | fuel + 1, k =>
    let k := skipIndent indent k.rest.length k
    if isBreak k.peek then
      let (b, k) := k.lineBreak
      let (bs, k) := blockBreaks indent fuel k
      (b :: bs, k)
    else ([], k)

/-- The lines of a block from here on behind the empty lines `before`: the text with the gaps
between its lines, the end of its last line, the empty lines behind it, and the place there. -/
def blockLines (isFolded : Bool) (indent : Int) :
    Nat → List Char → Cursor → List Char × List Char × List Char × Cursor
  | 0, before, k => ([], [], before, k)
  | fuel + 1, before, k =>
    if (k.column : Int) == indent && !k.isAtEnd then
      let leads := !isBlank k.peek
      let (text, k) := k.span (!isLineEnd ·)
      let (ending, k) :=
        if k.isAtEnd then ([], k) else let (b, k) := k.lineBreak; ([b], k)
      let (bs, k) := blockBreaks indent (k.rest.length + 1) k
      if (k.column : Int) == indent && !k.isAtEnd then
        let joint :=
          if isFolded && ending == ['\n'] && leads && !isBlank k.peek then
            if bs.isEmpty then [' '] else []
          else ending
        let (more, ending, bs, k) := blockLines isFolded indent fuel bs k
        (before ++ text ++ joint ++ more, ending, bs, k)
      else (before ++ text, ending, bs, k)
    else ([], [], before, k)

/-- A block whose indicator stands here, inside a collection indented by `indent`. -/
def block (indent : Int) (k : Cursor) : Read (List Char × Cursor) := do
  let isFolded := k.peek == '>'
  let (chomping, increment, k) ← blockHeader k.next
  let least := max 1 (indent + 1)
  let (before, width, k) := match increment with
    | none =>
      let (bs, widest, k) := blockStart (k.rest.length + 1) 0 k
      (bs, max least widest, k)
    | some n =>
      let width := least + n - 1
      let (bs, k) := blockBreaks width (k.rest.length + 1) k
      (bs, width, k)
  let (text, ending, bs, k) := blockLines isFolded width (k.rest.length + 1) before k
  .ok (match chomping with
    | .strip => text
    | .clip => text ++ ending
    | .keep => text ++ ending ++ bs, k)

end Leasehold.Yaml

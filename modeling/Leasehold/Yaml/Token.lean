import Leasehold.Yaml.Scalar

/-!
# Tokens

- **Tokens** (`Token`): indicators, names, tags and scalars, and the starts and ends of indented
  collections.
- **Layout** (`Layout`): what the tokens so far leave open: the indentations of the collections
  around, and for each level of brackets a place where a key may have begun. A colon further on in
  the same line makes a key of what stands there.
- **Scanning** (`Token.scan`): all tokens of a document.
-/

namespace Leasehold.Yaml

/-- A tag as it is written: a handle, unless the tag is complete, and the rest. -/
structure WrittenTag where
  handle : Option String
  suffix : String
deriving DecidableEq, Repr

/-- A token of a document. -/
inductive Token where
  | version (major : Nat)
  | tagHandle (handle start : String)
  | otherDirective
  | documentStart
  | documentEnd
  | blockSequenceStart
  | blockMappingStart
  | blockEnd
  | flowSequenceStart
  | flowSequenceEnd
  | flowMappingStart
  | flowMappingEnd
  | blockEntry
  | flowEntry
  | key
  | value
  | alias (name : String)
  | anchor (name : String)
  | tag (t : WrittenTag)
  | scalar (text : String) (isPlain : Bool)
  | streamEnd
deriving DecidableEq, Repr

/-- A place where a key may have begun: the number of tokens before it. -/
structure KeyStart where
  tokens : Nat
  isRequired : Bool
  index : Nat
  line : Nat
  column : Nat

/-- The tokens so far and what they leave open. An indentation of -1 is that of the document. -/
structure Layout where
  cursor : Cursor
  tokens : Array Token := #[]
  depth : Nat := 0
  indent : Int := -1
  outer : List Int := []
  mayStartKey : Bool := true
  keyStarts : List (Nat × KeyStart) := []
  isDone : Bool := false

namespace Layout

/-- Whether brackets are open. -/
def inFlow (l : Layout) : Bool := l.depth != 0

/-- The layout with a further token, at a later place. -/
def emit (l : Layout) (t : Token) (cursor : Cursor) : Layout :=
  { l with tokens := l.tokens.push t, cursor }

/-- Puts tokens behind the first `n` ones. -/
def insert (l : Layout) (n : Nat) (ts : Array Token) : Layout :=
  { l with tokens := l.tokens.extract 0 n ++ ts ++ l.tokens.extract n l.tokens.size }

/-- Closes the indented collections that reach beyond a column, `fuel` of them at most. -/
def unwindFrom (column : Int) : Nat → Layout → Layout
  | 0, l => l
  | fuel + 1, l =>
    if column < l.indent then
      unwindFrom column fuel
        { l with
          tokens := l.tokens.push .blockEnd
          indent := l.outer.headD (-1)
          outer := l.outer.tail }
    else l

/-- Closes the indented collections that reach beyond a column. -/
def unwind (l : Layout) (column : Int) : Layout :=
  if l.inFlow then l else unwindFrom column (l.outer.length + 1) l

/-- Whether a collection at a column would be a new one. -/
def isDeeper (l : Layout) (column : Int) : Bool := decide (l.indent < column)

/-- Opens a collection at a column. -/
def deepen (l : Layout) (column : Int) : Layout :=
  { l with outer := l.indent :: l.outer, indent := column }

/-- Forgets a key that may have begun at this depth; one that was required is a fault. -/
def dropKey (l : Layout) : Read Layout :=
  match l.keyStarts.lookup l.depth with
  | none => .ok l
  | some k =>
    if k.isRequired then .error .malformed
    else .ok { l with keyStarts := l.keyStarts.filter fun e => e.1 != l.depth }

/-- Remembers that a key may begin here. -/
def markKey (l : Layout) : Read Layout :=
  if l.mayStartKey then do
    let required := !l.inFlow && l.indent == l.cursor.column
    let l ← l.dropKey
    let k : KeyStart :=
      ⟨l.tokens.size, required, l.cursor.index, l.cursor.line, l.cursor.column⟩
    .ok { l with keyStarts := (l.depth, k) :: l.keyStarts }
  else .ok l

/-- Whether a key that began somewhere can no longer be one here: it is on an earlier line or too
far back. -/
def isStale (l : Layout) (k : KeyStart) : Bool :=
  k.line != l.cursor.line || decide (1024 < l.cursor.index - k.index)

/-- Forgets all keys that can no longer be ones; one that was required is a fault. -/
def dropStaleKeys (l : Layout) : Read Layout :=
  if l.keyStarts.any fun e => l.isStale e.2 && e.2.isRequired then .error .malformed
  else .ok { l with keyStarts := l.keyStarts.filter fun e => !l.isStale e.2 }

/-- Skips spaces, comments and ends of lines. Outside brackets a key may begin on a new line. -/
def skipBlanks : Nat → Layout → Layout
  | 0, l => l
  | fuel + 1, l =>
    let k := l.cursor.skipWhile (· == ' ')
    let k := if k.peek == '#' then k.skipWhile (!isLineEnd ·) else k
    if isBreak k.peek then
      skipBlanks fuel
        { l with cursor := k.lineBreak.2, mayStartKey := l.mayStartKey || !l.inFlow }
    else { l with cursor := k }

/-! ## Names, tags and directives -/

/-- A name of word characters, of which there is at least one. -/
def name (k : Cursor) : Read (String × Cursor) :=
  let (cs, k) := k.span isWord
  if cs.isEmpty then .error .malformed else .ok (String.ofList cs, k)

/-- The name behind the mark of an anchor or an alias. -/
def anchorName (k : Cursor) : Read (String × Cursor) := do
  let (n, k) ← name k.next
  if isGap k.peek || ['?', ':', ',', ']', '\x7d', '%', '@', '\x60'].contains k.peek then .ok (n, k)
  else .error .malformed

/-- Characters of a tag, escapes by number apart. -/
def isTagCharacter (c : Char) : Bool :=
  isWord c || ";/?:@&=+$,.!~*'()[]".toList.contains c

/-- The bytes of consecutive escapes by number. -/
def escapedBytes : Nat → Cursor → Read (Bytes × Cursor)
  | 0, _ => .error .malformed
  | fuel + 1, k =>
    if k.peek == '%' then
      match Json.hexValue? (k.peekAt 1), Json.hexValue? (k.peekAt 2) with
      | some a, some b => do
        let (bs, k) ← escapedBytes fuel (k.skip 3)
        .ok (UInt8.ofNat (a * 16 + b) :: bs, k)
      | _, _ => .error .malformed
    else .ok ([], k)

/-- The characters of a tag with its escapes resolved. -/
def tagCharacters : Nat → Cursor → Read (List Char × Cursor)
  | 0, _ => .error .malformed
  | fuel + 1, k =>
    if k.peek == '%' then do
      let (bs, k) ← escapedBytes (k.rest.length + 1) k
      match Utf8.decode bs with
      | .error _ => .error .malformed
      | .ok s =>
        let (cs, k) ← tagCharacters fuel k
        .ok (s.toList ++ cs, k)
    else if isTagCharacter k.peek then do
      let (cs, k') ← tagCharacters fuel k.next
      .ok (k.peek :: cs, k')
    else .ok ([], k)

/-- The text of a tag, which is not empty. -/
def tagText (k : Cursor) : Read (String × Cursor) := do
  let (cs, k) ← tagCharacters (k.rest.length + 1) k
  if cs.isEmpty then .error .malformed else .ok (String.ofList cs, k)

/-- A handle: an exclamation mark, or two with a name or nothing between them. -/
def tagHandle (k : Cursor) : Read (String × Cursor) :=
  if k.peek != '!' then .error .malformed
  else if k.peekAt 1 == ' ' then .ok ("!", k.next)
  else
    let (cs, after) := k.next.span isWord
    if after.peek == '!' then .ok (String.ofList ('!' :: (cs ++ ['!'])), after.next)
    else if cs.isEmpty then .error .malformed
    else .error .malformed

/-- Whether a further exclamation mark stands in the same word. -/
def hasHandle (k : Cursor) : Bool :=
  ((k.next.rest.takeWhile (!isStop ·)).contains '!')

/-- A tag, and the place behind it. -/
def writtenTag (k : Cursor) : Read (WrittenTag × Cursor) := do
  let (t, k) ←
    if k.peekAt 1 == '<' then do
      let (s, k) ← tagText (k.skip 2)
      if k.peek == '>' then .ok (WrittenTag.mk none s, k.next) else .error .malformed
    else if isGap (k.peekAt 1) then .ok (⟨none, "!"⟩, k.next)
    else if hasHandle k then do
      let (h, k) ← tagHandle k
      let (s, k) ← tagText k
      .ok (⟨some h, s⟩, k)
    else do
      let (s, k) ← tagText k.next
      .ok (⟨some "!", s⟩, k)
  if isStop k.peek then .ok (t, k) else .error .malformed

/-- A number of at least one digit. -/
def number (k : Cursor) : Read (Nat × Cursor) :=
  let (cs, k) := k.span Char.isDigit
  if cs.isEmpty then .error .malformed else .ok (Numeral.ofDigits cs, k)

/-- The rest of the line of a directive, which holds nothing but a comment. -/
def directiveEnd (k : Cursor) : Read Cursor :=
  let k := k.skipWhile (· == ' ')
  let k := if k.peek == '#' then k.skipWhile (!isLineEnd ·) else k
  if !isLineEnd k.peek then .error .malformed
  else .ok (if k.isAtEnd then k else k.lineBreak.2)

/-- A directive. -/
def directive (k : Cursor) : Read (Token × Cursor) := do
  let (n, k) ← name k.next
  if !isStop k.peek then .error .malformed
  let (t, k) ← match n with
    | "YAML" => do
      let (major, k) ← number (k.skipWhile (· == ' '))
      if k.peek != '.' then .error .malformed
      let (_, k) ← number k.next
      if !isStop k.peek then .error .malformed
      .ok (Token.version major, k)
    | "TAG" => do
      let (h, k) ← tagHandle (k.skipWhile (· == ' '))
      if k.peek != ' ' then .error .malformed
      let (s, k) ← tagText (k.skipWhile (· == ' '))
      if !isStop k.peek then .error .malformed
      .ok (Token.tagHandle h s, k)
    | _ => .ok (Token.otherDirective, k.skipWhile (!isLineEnd ·))
  let k ← directiveEnd k
  .ok (t, k)

/-! ## Tokens -/

/-- The end of the document. -/
def finish (l : Layout) : Read Layout := do
  let l ← (l.unwind (-1)).dropKey
  .ok { l.emit .streamEnd l.cursor with mayStartKey := false, keyStarts := [], isDone := true }

/-- A directive at the start of a line. -/
def readDirective (l : Layout) : Read Layout := do
  let l ← (l.unwind (-1)).dropKey
  let (t, k) ← directive l.cursor
  .ok { l.emit t k with mayStartKey := false }

/-- A mark of the start or of the end of a document. -/
def readMark (l : Layout) (t : Token) : Read Layout := do
  let l ← (l.unwind (-1)).dropKey
  .ok { l.emit t (l.cursor.skip 3) with mayStartKey := false }

/-- An opening bracket. -/
def openFlow (l : Layout) (t : Token) : Read Layout := do
  let l ← l.markKey
  .ok { l.emit t l.cursor.next with depth := l.depth + 1, mayStartKey := true }

/-- A closing bracket. Without an open one it is a fault. -/
def closeFlow (l : Layout) (t : Token) : Read Layout := do
  let l ← l.dropKey
  if l.depth = 0 then .error .malformed
  .ok { l.emit t l.cursor.next with depth := l.depth - 1, mayStartKey := false }

/-- A comma between brackets. -/
def readFlowEntry (l : Layout) : Read Layout := do
  let l ← l.dropKey
  .ok { l.emit .flowEntry l.cursor.next with mayStartKey := true }

/-- Opens an indented collection here, if it is a new one. Where no key may begin, neither may a
collection. -/
def openBlock (l : Layout) (t : Token) : Read Layout :=
  if l.inFlow then .ok l
  else if !l.mayStartKey then .error .malformed
  else if l.isDeeper l.cursor.column then
    .ok ((l.deepen l.cursor.column).emit t l.cursor)
  else .ok l

/-- The mark of an item of an indented sequence. -/
def readBlockEntry (l : Layout) : Read Layout := do
  let l ← l.openBlock .blockSequenceStart
  let l ← { l with mayStartKey := true }.dropKey
  .ok (l.emit .blockEntry l.cursor.next)

/-- The mark of a key. -/
def readKey (l : Layout) : Read Layout := do
  let l ← l.openBlock .blockMappingStart
  let l ← { l with mayStartKey := !l.inFlow }.dropKey
  .ok (l.emit .key l.cursor.next)

/-- The mark of a value. If a key may have begun on this line, it did. -/
def readValue (l : Layout) : Read Layout := do
  match l.keyStarts.lookup l.depth with
  | some k =>
    let opens := !l.inFlow && l.isDeeper k.column
    let l := if opens then l.deepen k.column else l
    let l := l.insert k.tokens (if opens then #[.blockMappingStart, .key] else #[.key])
    let l := { l with
      keyStarts := l.keyStarts.filter fun e => e.1 != l.depth
      mayStartKey := false }
    .ok (l.emit .value l.cursor.next)
  | none =>
    let l ← l.openBlock .blockMappingStart
    let l ← { l with mayStartKey := !l.inFlow }.dropKey
    .ok (l.emit .value l.cursor.next)

/-- Something that may begin a key: a name, a tag or a scalar, with the place behind it. -/
def readLeaf (l : Layout) (read : Layout → Read (Token × Cursor)) : Read Layout := do
  let l ← l.markKey
  let l := { l with mayStartKey := false }
  let (t, k) ← read l
  .ok (l.emit t k)

/-- A block scalar, after which a key may begin. -/
def readBlock (l : Layout) : Read Layout := do
  let l ← { l with mayStartKey := true }.dropKey
  let (cs, k) ← block l.indent l.cursor
  .ok (l.emit (.scalar (String.ofList cs) false) k)

/-- A quoted scalar. -/
def quotedToken (l : Layout) : Read (Token × Cursor) := do
  let (cs, k) ← quoted l.cursor
  .ok (.scalar (String.ofList cs) false, k)

/-- A plain scalar, after which a key may begin if a line ended behind it. -/
def readPlain (l : Layout) : Read Layout := do
  let l ← l.markKey
  let (cs, crossed, k) := plain l.inFlow (l.indent + 1) l.cursor
  .ok { l.emit (.scalar (String.ofList cs) true) k with mayStartKey := crossed }

/-- Whether a plain scalar may begin here. -/
def startsPlain (l : Layout) : Bool :=
  let c := l.cursor.peek
  !(isGap c || "-?:,[]\x7b\x7d#&*!|>'\"%@\x60".toList.contains c) ||
    (!isGap (l.cursor.peekAt 1) && (c == '-' || (!l.inFlow && (c == '?' || c == ':'))))

/-- The next token. -/
def readToken (l : Layout) : Read Layout := do
  let l := l.skipBlanks (l.cursor.rest.length + 1)
  let l ← l.dropStaleKeys
  let l := l.unwind l.cursor.column
  let k := l.cursor
  let c := k.peek
  let beforeGap := isGap (k.peekAt 1)
  if k.isAtEnd then l.finish
  else if c == '%' && k.column == 0 then l.readDirective
  else if k.column == 0 && k.isAtMark '-' then l.readMark .documentStart
  else if k.column == 0 && k.isAtMark '.' then l.readMark .documentEnd
  else if c == '[' then l.openFlow .flowSequenceStart
  else if c == '\x7b' then l.openFlow .flowMappingStart
  else if c == ']' then l.closeFlow .flowSequenceEnd
  else if c == '\x7d' then l.closeFlow .flowMappingEnd
  else if c == ',' then l.readFlowEntry
  else if c == '-' && beforeGap then l.readBlockEntry
  else if c == '?' && (l.inFlow || beforeGap) then l.readKey
  else if c == ':' && (l.inFlow || beforeGap) then l.readValue
  else if c == '*' then
    l.readLeaf fun l => (anchorName l.cursor).map fun (n, k) => (.alias n, k)
  else if c == '&' then
    l.readLeaf fun l => (anchorName l.cursor).map fun (n, k) => (.anchor n, k)
  else if c == '!' then
    l.readLeaf fun l => (writtenTag l.cursor).map fun (t, k) => (.tag t, k)
  else if (c == '|' || c == '>') && !l.inFlow then l.readBlock
  else if c == '\'' || c == '"' then l.readLeaf quotedToken
  else if l.startsPlain then l.readPlain
  else .error .malformed

/-- All tokens from here on; every token takes at least one character. -/
def readAll : Nat → Layout → Read (List Token)
  | 0, _ => .error .malformed
  | fuel + 1, l => do
    let l ← l.readToken
    if l.isDone then .ok l.tokens.toList else readAll fuel l

end Layout

/-- Whether a character may stand in a document. -/
def isAllowed (c : Char) : Bool :=
  let n := c.toNat
  n == 0x9 || n == 0xa || n == 0xd || (0x20 ≤ n && n ≤ 0x7e) || n == 0x85 ||
    (0xa0 ≤ n && n ≤ 0xfffd) || 0x10000 ≤ n

/-- The tokens of a document. -/
def Token.scan (s : String) : Read (List Token) :=
  let cs := s.toList
  if !cs.all isAllowed then .error .malformed
  else
    let k : Cursor := ⟨cs, 0, 0, 0⟩
    let k := if k.peek == byteOrderMark then k.next else k
    Layout.readAll (cs.length + 1) { cursor := k }

end Leasehold.Yaml

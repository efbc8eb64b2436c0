import Leasehold.Yaml.Tag
import Leasehold.Yaml.Token

/-!
# Nodes

- **Nodes** (`Node`): scalars, sequences and mappings with their tags. An alias stands for a copy of
  the node that its anchor names; inside that node itself it stands for a loop.
- **Composition** (`Node.ofTokens`): the node of a document, of which there is at most one. A reader goes
  one level deeper for each collection (`Node.inside`), and only so far.
-/

namespace Leasehold.Yaml

/-- A node of a document. -/
inductive Node where
  | scalar (tag : Tag) (text : String)
  | sequence (tag : Tag) (items : List Node)
  | mapping (tag : Tag) (entries : List (Node × Node))
  /-- An alias for a sequence or a mapping around it. -/
  | loop (isMapping : Bool)

namespace Node

/-- A scalar without text. -/
def blank : Node := .scalar .null ""

/-- What remains to be read, how many levels deeper the reader can go, the nodes with anchors so far, and
the handles of tags. -/
structure Source where
  tokens : List Token
  reach : Nat
  anchors : List (String × Node) := []
  handles : List (String × String) := []

/-- Reads a part of a document. -/
abbrev Reader := StateT Source Read

/-- A document that is not well formed. -/
def fault {α : Type} : Reader α := throw .malformed

/-- The next token. -/
def peek : Reader Token := do return (← get).tokens.headD .streamEnd

/-- Leaves the next token behind. -/
def skip : Reader Unit := modify fun s => { s with tokens := s.tokens.tail }

/-- Leaves the next token behind if it is a given one. -/
def skipIf (t : Token) : Reader Bool := do
  if (← peek) = t then
    skip
    return true
  else return false

/-- Leaves the next token behind, which has to be a given one. -/
def expect (t : Token) : Reader Unit := do
  if !(← skipIf t) then fault

/-- Reads what is inside a collection, one level deeper. -/
def inside {α : Type} (read : Reader α) : Reader α := do
  match (← get).reach with
  | 0 => throw .overnested
  | reach + 1 =>
    modify fun s => { s with reach }
    let a ← read
    modify fun s => { s with reach := reach + 1 }
    return a

/-- The full name of a written tag; a lone mark is kept as it is. -/
def fullName (t : WrittenTag) : Reader String :=
  match t.handle with
  | none => return t.suffix
  | some h => do
    match (← get).handles.lookup h with
    | some start => return start ++ t.suffix
    | none => fault

/-- The anchor and the tag in front of a node, in either order. -/
def properties : Reader (Option String × Option String) := do
  match ← peek with
  | .anchor a =>
    skip
    match ← peek with
    | .tag t =>
      skip
      return (some a, some (← fullName t))
    | _ => return (some a, none)
  | .tag t =>
    skip
    match ← peek with
    | .anchor a =>
      skip
      return (some a, some (← fullName t))
    | _ => return (none, some (← fullName t))
  | _ => return (none, none)

/-- The tag of a collection, which is an ordinary one unless its tag says more. -/
def collectionTag (ordinary : Tag) : Option String → Tag
  | none => ordinary
  | some name => if name == "!" then ordinary else .ofName name

/-- The tag of a scalar. A lone mark makes a quoted scalar look like a plain one. -/
def scalarTag (name : Option String) (text : String) (isPlain : Bool) : Tag :=
  match name with
  | none => if isPlain then .ofPlain text else .str
  | some name => if name == "!" then .ofPlain text else .ofName name

/-- Gives a node its anchor. An anchor names one node only. -/
def anchored (anchor : Option String) (placeholder : Node) (read : Reader Node) : Reader Node :=
  match anchor with
  | none => read
  | some a => do
    if ((← get).anchors.lookup a).isSome then fault
    modify fun s => { s with anchors := (a, placeholder) :: s.anchors }
    let n ← read
    modify fun s => { s with anchors := (a, n) :: s.anchors }
    return n

/-- Whether a token ends an entry of an indented mapping. -/
def endsBlockEntry : Token → Bool
  | .key => true
  | .value => true
  | .blockEnd => true
  | _ => false

/-- Whether a token ends an item of an indented sequence. -/
def endsBlockItem : Token → Bool
  | .blockEntry => true
  | .blockEnd => true
  | _ => false

/-- Whether a token ends a part of an entry between brackets. -/
def endsFlowPart (closing : Token) (t : Token) : Bool := t = .flowEntry || t = closing

mutual

/-- Reads a node. Only where `inBlock` holds may it be an indented collection, and only where
`indentless` holds a sequence at the indentation of the mapping around it. -/
def read : Nat → Bool → Bool → Reader Node
  | 0, _, _ => fault
  | fuel + 1, inBlock, indentless => do
    match ← peek with
    | .alias a =>
      skip
      match (← get).anchors.lookup a with
      | some n => return n
      | none => fault
    | _ =>
      let (anchor, tag) ← properties
      let seq := fun (items : Reader (List Node)) =>
        anchored anchor (.loop false) (return .sequence (collectionTag .seq tag) (← inside items))
      let map := fun (entries : Reader (List (Node × Node))) =>
        anchored anchor (.loop true) (return .mapping (collectionTag .map tag) (← inside entries))
      let next ← peek
      if indentless && next = .blockEntry then seq (readIndentless fuel)
      else
        match next with
        | .scalar text isPlain =>
          skip
          anchored anchor blank (return .scalar (scalarTag tag text isPlain) text)
        | .flowSequenceStart => skip; seq (readFlowSequence fuel true)
        | .flowMappingStart => skip; map (readFlowMapping fuel true)
        | .blockSequenceStart =>
          if inBlock then
            skip
            seq (readBlockSequence fuel)
          else readEmpty anchor tag
        | .blockMappingStart =>
          if inBlock then
            skip
            map (readBlockMapping fuel)
          else readEmpty anchor tag
        | _ => readEmpty anchor tag

/-- Reads a node of which there is only an anchor or a tag. -/
def readEmpty (anchor tag : Option String) : Reader Node :=
  if anchor.isNone && tag.isNone then fault
  else anchored anchor blank (return .scalar (scalarTag tag "" true) "")

/-- Reads the items of an indented sequence and its end. -/
def readBlockSequence : Nat → Reader (List Node)
  | 0 => fault
  | fuel + 1 => do
    if ← skipIf .blockEntry then
      let n ← if endsBlockItem (← peek) then pure blank else read fuel true false
      return n :: (← readBlockSequence fuel)
    else
      expect .blockEnd
      return []

/-- Reads the items of a sequence at the indentation of the mapping around it. -/
def readIndentless : Nat → Reader (List Node)
  | 0 => fault
  | fuel + 1 => do
    if ← skipIf .blockEntry then
      let next ← peek
      let n ←
        if endsBlockItem next || endsBlockEntry next then pure blank else read fuel true false
      return n :: (← readIndentless fuel)
    else return []

/-- Reads the entries of an indented mapping and its end. -/
def readBlockMapping : Nat → Reader (List (Node × Node))
  | 0 => fault
  | fuel + 1 => do
    if ← skipIf .key then
      let k ← if endsBlockEntry (← peek) then pure blank else read fuel true true
      let v ←
        if ← skipIf .value then
          if endsBlockEntry (← peek) then pure blank else read fuel true true
        else pure blank
      return (k, v) :: (← readBlockMapping fuel)
    else
      expect .blockEnd
      return []

/-- Reads a key between brackets behind its mark, and its value. -/
def readFlowPair (closing : Token) : Nat → Reader (Node × Node)
  | 0 => fault
  | fuel + 1 => do
    let next ← peek
    let k ←
      if next = .value || endsFlowPart closing next then pure blank else read fuel false false
    let v ←
      if ← skipIf .value then
        if endsFlowPart closing (← peek) then pure blank else read fuel false false
      else pure blank
    return (k, v)

/-- Reads the items of a sequence between brackets and its end. -/
def readFlowSequence : Nat → Bool → Reader (List Node)
  | 0, _ => fault
  | fuel + 1, isFirst => do
    if ← skipIf .flowSequenceEnd then return []
    if !isFirst then expect .flowEntry
    if ← skipIf .key then
      let pair ← inside (readFlowPair .flowSequenceEnd fuel)
      return .mapping .map [pair] :: (← readFlowSequence fuel false)
    else if ← skipIf .flowSequenceEnd then return []
    else
      let n ← read fuel false false
      return n :: (← readFlowSequence fuel false)

/-- Reads the entries of a mapping between brackets and its end. -/
def readFlowMapping : Nat → Bool → Reader (List (Node × Node))
  | 0, _ => fault
  | fuel + 1, isFirst => do
    if ← skipIf .flowMappingEnd then return []
    if !isFirst then expect .flowEntry
    if ← skipIf .key then
      let pair ← readFlowPair .flowMappingEnd fuel
      return pair :: (← readFlowMapping fuel false)
    else if ← skipIf .flowMappingEnd then return []
    else
      let k ← read fuel false false
      return (k, blank) :: (← readFlowMapping fuel false)

end

/-! ## Documents -/

/-- The handles that every document has. -/
def defaultHandles : List (String × String) := [("!", "!"), ("!!", tagSpace)]

/-- Reads the directives of a document, `fuel` of them at most. A document names the version of the
format at most once, and each handle too. -/
def directives : Nat → Bool → Reader Unit
  | 0, _ => return
  | fuel + 1, hasVersion => do
    match ← peek with
    | .version major =>
      if hasVersion || major != 1 then fault
      skip
      directives fuel true
    | .tagHandle h start =>
      if ((← get).handles.lookup h).isSome then fault
      skip
      modify fun s => { s with handles := (h, start) :: s.handles }
      directives fuel hasVersion
    | .otherDirective =>
      skip
      directives fuel hasVersion
    | _ => return

/-- Whether a token ends a document that has begun. -/
def endsDocument : Token → Bool
  | .version _ => true
  | .tagHandle .. => true
  | .otherDirective => true
  | .documentStart => true
  | .documentEnd => true
  | .streamEnd => true
  | _ => false

/-- Whether a token stands in front of the mark of a document's start. -/
def startsDocument (t : Token) : Bool := endsDocument t && t != .documentEnd

/-- Leaves the marks of a document's end behind, `fuel` of them at most. -/
def skipEnds : Nat → Reader Unit
  | 0 => return
  | fuel + 1 => do if ← skipIf .documentEnd then skipEnds fuel

/-- Reads the only document, if there is one. A document without a mark of its start has no
directives. -/
def document (fuel : Nat) : Reader (Option Node) := do
  if !startsDocument (← peek) then
    modify fun s => { s with handles := defaultHandles }
    let n ← read fuel true false
    skipEnds fuel
    expect .streamEnd
    return some n
  else if ← skipIf .streamEnd then return none
  else
    directives fuel false
    modify fun s => { s with handles := s.handles ++ defaultHandles }
    expect .documentStart
    let n ← if endsDocument (← peek) then pure blank else read fuel true false
    skipEnds fuel
    expect .streamEnd
    return some n

/-- The node of a document, if it holds one, for a reader that can go some levels deep. -/
def ofTokens (reach : Nat) (tokens : List Token) : Read (Option Node) :=
  ((document (2 * tokens.length + 2)).run { tokens, reach }).map (·.1)

end Node
end Leasehold.Yaml

import Leasehold.Failure.Basic
import Leasehold.Number.Numeral

/-!
# The grammar of command lines

A command line is a list of words: options, with or without a value, and positional words.

- **Grammars** (`Grammar`): options by their names, and slots for positional words in order. The
  last slot may take all words from its first on.
- **Marks** (`Grammar.mark`): what a word is. A word that begins with a dash is an option, unless it
  is a dash alone, a negative number or holds a space; a long name may be cut short while it stays
  unique; a value may follow an equals sign. Behind a double dash all words are positional.
- **Reading** (`Grammar.read`): options and positional words may be mixed. What nothing takes is left
  over.
-/

namespace Leasehold.CommandLine

/-- Why reading stops. -/
inductive Stop where
  /-- Help was asked for. -/
  | help
  /-- The words do not fit the grammar. -/
  | usage
  | failure (f : Failure)

/-- Either a stop or what was read. -/
abbrev Read (α : Type) := Except Stop α

/-- An option: its names, and how its value is taken. One that asks for help has no value. -/
structure Switch (α : Type) where
  names : List String
  take : Option (String → α → Read α)

/-- What takes positional words: one of them, or all from one on. -/
inductive Slot (α : Type) where
  | one (take : String → α → Read α)
  | rest (take : List String → α → Read α)

/-- The options and the slots of a command line. -/
structure Grammar (α : Type) where
  switches : List (Switch α)
  slots : List (Slot α)

/-- What a word is. -/
inductive Mark (α : Type) where
  | positional
  /-- The first double dash. -/
  | separator
  /-- An option under the name that was recognised, with the value attached to it. -/
  | switch (s : Switch α) (name : String) (attached : Option String)
  | unknown

/-- A word and what it is. -/
abbrev Marked (α : Type) := Mark α × String

/-! ## Marks -/

/-- A word before its first equals sign, and what stands behind that. -/
def cutAtEquals (word : String) : String × Option String :=
  match Numeral.splitAtFirst (· == '=') word.toList with
  | (before, _ :: behind) => (String.ofList before, some (String.ofList behind))
  | (_, []) => (word, none)

/-- Digits of any script, and nothing else. -/
def areDigits (cs : List Char) : Bool := cs.all fun c => (Text.digitValue? c).isSome

/-- A negative number: a dash and digits, or digits with a point and at least one digit behind it.
The end of a line may follow. -/
def isNegativeNumber (word : String) : Bool :=
  match word.toList with
  | '-' :: cs =>
    let cs := if cs.getLast? == some '\n' then cs.dropLast else cs
    match Numeral.splitAtFirst (· == '.') cs with
    | (whole, []) => !whole.isEmpty && areDigits whole
    | (whole, _ :: fraction) => areDigits whole && !fraction.isEmpty && areDigits fraction
  | _ => false

namespace Grammar

variable {α : Type}

/-- All names with their options, in order. -/
def names (g : Grammar α) : List (String × Switch α) :=
  g.switches.flatMap fun s => s.names.map (·, s)

/-- Whether a text is the beginning of another. -/
def begins (start whole : String) : Bool := start.toList.isPrefixOf whole.toList

/-- The options that a word may stand for when its name is cut short, or when a value is written
right behind a short name. -/
def candidates (g : Grammar α) (word : String) : List (Mark α) :=
  if begins "--" word then
    let (start, attached) := cutAtEquals word
    g.names.filterMap fun (n, s) => if begins start n then some (.switch s n attached) else none
  else
    let short := String.ofList (word.toList.take 2)
    let behind := String.ofList (word.toList.drop 2)
    g.names.filterMap fun (n, s) =>
      if n == short then some (.switch s n (some behind))
      else if begins word n then some (.switch s n none)
      else none

/-- What a word is that begins with a dash and is no whole name. -/
def markByStart (g : Grammar α) (word : String) : Read (Mark α) :=
  match g.candidates word with
  | [m] => .ok m
  | _ :: _ :: _ => .error .usage
  | [] => .ok (if isNegativeNumber word || word.toList.contains ' ' then .positional else .unknown)

/-- What a word is. -/
def mark (g : Grammar α) (word : String) : Read (Mark α) :=
  if !begins "-" word || word == "-" then .ok .positional
  else
    match g.names.lookup word with
    | some s => .ok (.switch s word none)
    | none =>
      match cutAtEquals word with
      | (start, some attached) =>
        match g.names.lookup start with
        | some s => .ok (.switch s start (some attached))
        | none => g.markByStart word
      | _ => g.markByStart word

/-- What all words are. -/
def markAll (g : Grammar α) : List String → Read (List (Marked α))
  | [] => .ok []
  | word :: rest =>
    if word == "--" then .ok ((.separator, word) :: rest.map (.positional, ·))
    else do
      let m ← g.mark word
      let ms ← g.markAll rest
      .ok ((m, word) :: ms)

/-! ## Reading -/

/-- Whether a word is an option. -/
def isOption : Marked α → Bool
  | (.switch .., _) => true
  | (.unknown, _) => true
  | _ => false

/-- Whether a word is the double dash that separates. -/
def isSeparator : Marked α → Bool
  | (.separator, _) => true
  | _ => false

/-- The one value among words of which a double dash does not count. -/
def onlyValue (words : List String) : Read String :=
  match words.erase "--" with
  | [v] => .ok v
  | _ => .error (.failure (.plain .value "not enough values to unpack (expected 1, got 0)"))

/-- The words for a slot at the front, with the double dash around them, and the words behind; or
none if no positional word comes first. -/
def wordsFor (slot : Slot α) (ws : List (Marked α)) : Option (List String × List (Marked α)) :=
  let dashes := ws.takeWhile isSeparator
  match ws.drop dashes.length with
  | [] => none
  | w :: rest =>
    if isOption w then none
    else
      match slot with
      | .rest _ => some (ws.map (·.2), [])
      | .one _ =>
        let more := rest.takeWhile isSeparator
        some ((dashes ++ w :: more).map (·.2), rest.drop more.length)

/-- Lets a slot take its words. -/
def fill (slot : Slot α) (words : List String) (a : α) : Read α :=
  match slot with
  | .one take => do take (← onlyValue words) a
  | .rest take => take words a

/-- Lets slots take the positional words at the front: what was read, the slots left, and the words
behind. -/
def fillAll (a : α) (ws : List (Marked α)) : List (Slot α) →
    Read (α × List (Slot α) × List (Marked α))
  | [] => .ok (a, [], ws)
  | slot :: slots =>
    match wordsFor slot ws with
    | none => .ok (a, slot :: slots, ws)
    | some (words, rest) => do
      let a ← fill slot words a
      fillAll a rest slots

/-- Asks for help by a short name behind which further words were written: more short names of the
same option, or else a fault. -/
def helpFor (name : String) : Option String → Stop
  | none => .help
  | some attached =>
    let letters := attached.toList
    if begins "--" name || letters.isEmpty then .usage
    else if letters.all (name.toList.drop 1).contains then .help
    else .usage

/-- Takes an option at the front with its value: what was read, and the words behind. -/
def takeSwitch (s : Switch α) (name : String) (attached : Option String) (a : α)
    (rest : List (Marked α)) : Read (α × List (Marked α)) :=
  match s.take, attached with
  | none, _ => .error (helpFor name attached)
  | some take, some v => do
    let a ← take (← onlyValue [v]) a
    .ok (a, rest)
  | some take, none =>
    match rest with
    | (.positional, v) :: rest => do
      let a ← take (← onlyValue [v]) a
      .ok (a, rest)
    | _ => .error .usage

/-- Reads the words from here on: what was read, the slots left, and the words left over. Every round
takes at least one word. -/
def readFrom : Nat → α → List (Slot α) → List (Marked α) → List String →
    Read (α × List (Slot α) × List String)
  | 0, a, slots, ws, extra => .ok (a, slots, extra ++ ws.map (·.2))
  | fuel + 1, a, slots, ws, extra =>
    let ahead := ws.takeWhile (!isOption ·)
    match ws.drop ahead.length with
    | [] => do
      let (a, slots, ws) ← fillAll a ws slots
      .ok (a, slots, extra ++ ws.map (·.2))
    | option :: rest => do
      let (a, slots, left) ←
        if ahead.isEmpty then .ok (a, slots, ws) else fillAll a ws slots
      if left.length < ws.length then readFrom fuel a slots left extra
      else
        let extra := extra ++ ahead.map (·.2)
        match option with
        | (.switch s name attached, _) => do
          let (a, rest) ← takeSwitch s name attached a rest
          readFrom fuel a slots rest extra
        | (_, word) => readFrom fuel a slots rest (extra ++ [word])

/-- Reads a command line: what was read and the words left over. Every slot has to be filled. -/
def read (g : Grammar α) (a : α) (words : List String) : Read (α × List String) := do
  let ws ← g.markAll words
  let (a, slots, extra) ← readFrom (ws.length + 1) a g.slots ws []
  if slots.isEmpty then .ok (a, extra) else .error .usage

end Grammar
end Leasehold.CommandLine

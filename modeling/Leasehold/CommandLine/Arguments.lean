import Leasehold.CommandLine.Grammar

/-!
# The arguments of the program

- **Requests** (`Request`): what is asked for, with its key.
- **Arguments** (`Arguments`): a request, and the path of a settings file that may come before it.
- **Reading** (`Arguments.read`): nothing may be left over.
-/

namespace Leasehold.CommandLine

/-- What is asked for. -/
inductive Request where
  | acquire (key : String) (token : Option String) (ttl : Option Int)
  | release (key token : String)
  | extend (key token : String) (ttl : Int)
  | status (key : String)
  | wait (key : String) (token : Option String) (ttl poll timeout : Option Int)
deriving DecidableEq, Repr

/-- A command line that was understood. -/
structure Arguments where
  config : Option String
  request : Request
deriving DecidableEq, Repr

/-- The words of a request so far. -/
structure Draft where
  words : List String := []
  token : Option String := none
  ttl : Option Int := none
  poll : Option Int := none
  timeout : Option Int := none

/-- The option that asks for help. -/
def helpSwitch {α : Type} : Switch α := ⟨["-h", "--help"], none⟩

/-- A whole number. -/
def number (word : String) : Read Int :=
  match Numeral.readInteger? word with
  | some n => .ok n
  | none => .error .usage

/-- A slot for any word. -/
def wordSlot : Slot Draft := .one fun w d => .ok { d with words := d.words ++ [w] }

/-- A slot for a lifetime. -/
def ttlSlot : Slot Draft := .one fun w d => do
  let n ← number w
  .ok { d with ttl := some n }

/-- The option for a token. -/
def tokenSwitch : Switch Draft := ⟨["--token"], some fun w d => .ok { d with token := some w }⟩

/-- The option for a lifetime. -/
def ttlSwitch : Switch Draft := ⟨["--ttl-ms"], some fun w d => do
  let n ← number w
  .ok { d with ttl := some n }⟩

/-- The option for the time between two polls. -/
def pollSwitch : Switch Draft := ⟨["--poll-ms"], some fun w d => do
  let n ← number w
  .ok { d with poll := some n }⟩

/-- The option for the time to wait. -/
def timeoutSwitch : Switch Draft := ⟨["--timeout-ms"], some fun w d => do
  let n ← number w
  .ok { d with timeout := some n }⟩

/-- The grammar of a request by its name. -/
def requestGrammar : String → Option (Grammar Draft)
  | "acquire" => some ⟨[helpSwitch, tokenSwitch, ttlSwitch], [wordSlot]⟩
  | "release" => some ⟨[helpSwitch], [wordSlot, wordSlot]⟩
  | "extend" => some ⟨[helpSwitch], [wordSlot, wordSlot, ttlSlot]⟩
  | "status" => some ⟨[helpSwitch], [wordSlot]⟩
  | "wait" => some ⟨[helpSwitch, tokenSwitch, ttlSwitch, pollSwitch, timeoutSwitch], [wordSlot]⟩
  | _ => none

/-- The request of a name from its words. -/
def requestOf (name : String) (d : Draft) : Option Request :=
  match name, d.words with
  | "acquire", [key] => some (.acquire key d.token d.ttl)
  | "release", [key, token] => some (.release key token)
  | "extend", [key, token] => d.ttl.map (.extend key token)
  | "status", [key] => some (.status key)
  | "wait", [key] => some (.wait key d.token d.ttl d.poll d.timeout)
  | _, _ => none

/-- A request from its name and the words behind it, and the words left over. -/
def readRequest : List String → Read (Request × List String)
  | [] => .error .usage
  | name :: words =>
    match requestGrammar name with
    | none => .error .usage
    | some g => do
      let (d, extra) ← g.read {} words
      match requestOf name d with
      | some r => .ok (r, extra)
      | none => .error .usage

/-- A command line so far. -/
structure Outline where
  config : Option String := none
  request : Option Request := none
  extra : List String := []

/-- The grammar of the whole command line. -/
def grammar : Grammar Outline where
  switches := [
    helpSwitch,
    ⟨["--config"], some fun w o => .ok { o with config := some w }⟩]
  slots := [.rest fun words o => do
    let (r, extra) ← readRequest words
    .ok { o with request := some r, extra := o.extra ++ extra }]

/-- Reads the words of a command line. -/
def Arguments.read (words : List String) : Read Arguments := do
  let (o, extra) ← grammar.read {} words
  match o.request, o.extra ++ extra with
  | some request, [] => .ok ⟨o.config, request⟩
  | _, _ => .error .usage

end Leasehold.CommandLine

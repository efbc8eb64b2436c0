import Leasehold.Settings.Validation
import Leasehold.Yaml.Document

/-!
# Settings from a file

- **Paths** (`Path.normal`): how a path is written down, without what does not change where it
  leads.
- **Files** (`FileState`): what a path leads to.
- **Settings** (`Settings.ofFile`): a file holds a document; an empty one gives all defaults.
-/

namespace Leasehold

/-- What a path leads to. -/
inductive FileState where
  | missing
  | directory
  /-- The path goes on behind a file. -/
  | behindFile
  | contents (b : Bytes)

namespace Path

/-- The slashes that a path begins with: none, one, or two if it has exactly two. -/
def root (cs : List Char) : String :=
  match (cs.takeWhile (· == '/')).length with
  | 0 => ""
  | 2 => "//"
  | _ => "/"

/-- A path without empty steps and steps that stay in place. -/
def normal (path : String) : String :=
  let cs := path.toList
  let steps := (cs.splitOn '/').filter fun step => !step.isEmpty && step != ['.']
  let text := root cs ++ String.intercalate "/" (steps.map String.ofList)
  if text.isEmpty then "." else text

end Path

/-- A text in which every line ends with a line feed. -/
def Text.unifiedLines : List Char → List Char
  | '\r' :: '\n' :: rest => '\n' :: unifiedLines rest
  | '\r' :: rest => '\n' :: unifiedLines rest
  | c :: rest => c :: unifiedLines rest
  | [] => []

namespace Settings

/-- The failure for a document that cannot be read. -/
def documentFailure : Yaml.Fault → Failure
  | .malformed => .of .malformedDocument
  | .value message => .plain .value message
  | .mistagged kind message => .plain kind message
  | .overnested => .plain .recursion "maximum recursion depth exceeded"

/-- The settings that a value describes; one that is empty or zero describes the defaults. -/
def ofValue (v : Value) : Except Failure Settings :=
  (Settings.validate (if v.isTruthy then v else .mapping [])).toExcept fun issues =>
    .of (.invalidSettings .document issues)

/-- The settings that the contents of a file describe. -/
def ofBytes (reach : Nat) (b : Bytes) : Except Failure Settings := do
  let text ← (Utf8.decode b).mapError fun e => .of (.undecodable e)
  let lines := String.ofList (Text.unifiedLines text.toList)
  let v ← (Yaml.Document.parse reach lines).mapError documentFailure
  ofValue v

/-- The settings of the file to which a path leads, for a reader that can go some levels deep into a
document. No path holds a null character. -/
def ofFile (files : String → FileState) (reach : Nat) (path : String) : Except Failure Settings :=
  let path := Path.normal path
  if path.toList.contains '\x00' then .error (.plain .value "embedded null byte")
  else match files path with
  | .missing => .error (.of (.fileMissing path))
  | .directory => .error (.of (.fileIsDirectory path))
  | .behindFile => .error (.of (.fileNotDirectory path))
  | .contents b => ofBytes reach b

end Settings
end Leasehold

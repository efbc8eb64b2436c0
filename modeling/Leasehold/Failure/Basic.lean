import Leasehold.Failure.Kind
import Leasehold.Json.Parser
import Leasehold.Settings.Issue
import Leasehold.Store.Command
import Leasehold.Text.Utf8
import Leasehold.Value

/-!
# Failures

What goes wrong, and the chain of failures behind it.

- **Problems** (`Problem`): one constructor for each set of facts that a failure carries. The
  parameter stands for the failures inside it.
- **Failures** (`Failure`): a problem, the failure that is its stated cause, and the failure that
  was being handled when it arose.
- **Texts** (`Failure.text`).
-/

namespace Leasehold

/-- Where settings come from. -/
inductive SettingsSource where
  | document
  | environment
deriving DecidableEq, Repr

/-- What went wrong. -/
inductive Problem (φ : Type) where
  /-- A failure that says no more than its message, if it has one. -/
  | plain (kind : Kind) (message : Option String)
  /-- The store cannot be reached or the connection broke during an operation. -/
  | storeUnavailable (operation : String) (key reason : Option String)
  /-- Watched keys changed in every attempt. -/
  | transactionConflict (keys : List String) (attempts : Int)
  /-- Every attempt ended in a conflict. -/
  | retryExhausted (attempts : Int) (last : φ)
  /-- The store refused a command, for a reason; in a batch it is the command in some place. -/
  | refused (place : Option Nat) (why : Refusal)
  /-- A command argument that cannot be sent. -/
  | unsendable
  | invalidModel (issues : List Issue)
  | invalidSettings (source : SettingsSource) (issues : List Issue)
  | malformedDocument
  | malformedJson (error : Json.ReadError) (text : String)
  | undecodable (error : Utf8.DecodeError)
  | fileMissing (path : String)
  | fileIsDirectory (path : String)
  | fileNotDirectory (path : String)

/-- A failure with its stated cause and with the failure that it interrupted the handling of. -/
inductive Failure where
  | mk (problem : Problem Failure) (cause context : Option Failure)

namespace Failure

/-- A failure without a chain. -/
def of (problem : Problem Failure) : Failure := mk problem none none

instance : Inhabited Failure := ⟨of (.plain .failure none)⟩

/-- A failure of a kind, with a message. -/
def plain (kind : Kind) (message : String) : Failure := of (.plain kind (some message))

/-- The refusal to write a whole number that is too long. -/
def tooLong : Failure :=
  plain .value ("Exceeds the limit (4300 digits) for integer string conversion; " ++
    "use sys.set_int_max_str_digits() to increase the limit")

/-- The failure for a command that is refused. -/
def ofRefusal : Refusal → Failure
  | .unwritable => tooLong
  | why => of (.refused none why)

/-- A failure of a kind, with a message that shows a value. If the value holds a whole number that is too
long to be written, that fails instead. -/
def showing (kind : Kind) (message : String → String) (v : Value) : Failure :=
  if v.isWritable then plain kind (message v.quoted) else tooLong

/-- What went wrong. -/
def problem : Failure → Problem Failure
  | mk p _ _ => p

/-- The stated cause. -/
def cause : Failure → Option Failure
  | mk _ c _ => c

/-- The failure that was being handled. -/
def context : Failure → Option Failure
  | mk _ _ c => c

/-- The failure with a stated cause. -/
def because (f cause : Failure) : Failure := mk f.problem (some cause) f.context

/-- The failure as it arises while another is handled. -/
def during (f : Failure) : Option Failure → Failure
  | none => f
  | some handled => mk f.problem f.cause (some handled)

/-- The kind of a failure. -/
def kind (f : Failure) : Kind :=
  match f.problem with
  | .plain kind _ => kind
  | .storeUnavailable .. => .storeUnavailable
  | .transactionConflict .. => .transactionConflict
  | .retryExhausted .. => .retryExhausted
  | .refused .. => .response
  | .unsendable => .data
  | .invalidModel _ => .validation
  | .invalidSettings .. => .value
  | .malformedDocument => .document
  | .malformedJson e _ =>
    match e.fault with
    | .numberTooLong _ => .value
    | _ => .json
  | .undecodable _ => .encoding
  | .fileMissing _ => .fileMissing
  | .fileIsDirectory _ => .fileIsDirectory
  | .fileNotDirectory _ => .fileNotDirectory

/-- Whether a handler for a kind of failures applies. -/
def isA (f : Failure) (k : Kind) : Bool := f.kind.isA k

/-- Whether the connection to the store failed. -/
def isConnectivity (f : Failure) : Bool := f.kind.isConnectivity

/-- The words for where settings came from. -/
def sourceWord : SettingsSource → String
  | .document => "settings"
  | .environment => "environment"

/-- The message of a failure of the store, with the key and the reason that are known. -/
def unavailableText (operation : String) (key reason : Option String) : String :=
  "Redis unavailable during " ++ operation ++
    (match key with | some k => " on " ++ Text.quoted k | none => "") ++
    (match reason with | some r => if r.isEmpty then "" else ": " ++ r | none => "")

/-- The text of a failure. The message of a missing key is shown between quotes. -/
def text : Failure → String
  | mk (.plain kind message) _ _ =>
    match message with
    | none => ""
    | some m => if kind = .key then Text.quoted m else m
  | mk (.storeUnavailable operation key reason) _ _ => unavailableText operation key reason
  | mk (.transactionConflict keys attempts) _ _ =>
    "Transaction conflict on " ++ Text.quotedList keys ++ " after " ++ toString attempts ++
      " attempt(s)"
  | mk (.retryExhausted attempts last) _ _ =>
    "Gave up after " ++ toString attempts ++ " conflicting attempt(s): " ++ text last
  | mk (.refused ..) _ _ => "command refused"
  | mk .unsendable _ _ => "argument cannot be sent"
  | mk (.invalidModel _) _ _ => "invalid value"
  | mk (.invalidSettings source _) _ _ => "Invalid rediscoord " ++ sourceWord source
  | mk .malformedDocument _ _ => "<yaml error>"
  | mk (.malformedJson e s) _ _ =>
    match e.fault with
    | .numberTooLong _ => e.fault.text
    | _ => e.text s
  | mk (.undecodable e) _ _ => e.text
  | mk (.fileMissing path) _ _ => "[Errno 2] No such file or directory: " ++ Text.quoted path
  | mk (.fileIsDirectory path) _ _ => "[Errno 21] Is a directory: " ++ Text.quoted path
  | mk (.fileNotDirectory path) _ _ => "[Errno 20] Not a directory: " ++ Text.quoted path

end Failure
end Leasehold

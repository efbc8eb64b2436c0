import Leasehold.Proofs.Connection.Outcome
import Leasehold.Settings.Document
import Leasehold.Settings.Environment

/-!
# How loading settings fails

- **The environment** (`Settings.refuses_ofEnvironment`): whatever is wrong with it is the fault of a
  value.
- **Files** (`Settings.ofFile_fault`): the file system, the document or a value is at fault, unless a
  scalar of the document does not fit its tag (`Settings.Mistagged`), or the document is nested too deeply
  (`Settings.Overnested`).
-/

namespace Leasehold

open Connection

namespace Failure

variable {f : Failure} {k : Kind}

theorem isA_of_kind (h : f.kind = k) (general : Kind) : f.isA general = k.isA general := by
  rw [isA, h]

end Failure

namespace Settings

theorem refuses_validate (source : SettingsSource) (v : Value) :
    Refuses ((Settings.validate v).toExcept fun issues => .of (.invalidSettings source issues)) := by
  intro f hf
  unfold Checked.toExcept at hf
  split at hf
  · cases hf
  · exact Except.error.inj hf ▸ rfl

/-! ## The environment -/

theorem refuses_number? {α : Type} (env : Environment) (name requirement : String)
    (read : String → Option α) : Refuses (env.number? name requirement read) := by
  unfold Environment.number?
  split
  · exact refuses_ok _
  · split
    · exact refuses_ok _
    · exact refuses_refusal _

theorem refuses_textField (env : Environment) (field name : String) :
    Refuses (textField env field name) := refuses_ok _

theorem refuses_intField (env : Environment) (field name : String) :
    Refuses (intField env field name) := (refuses_number? env name _ _).map _

theorem refuses_floatField (env : Environment) (field name : String) :
    Refuses (floatField env field name) := (refuses_number? env name _ _).map _

/-- Whatever is wrong with the environment is the fault of a value. -/
theorem refuses_ofEnvironment (env : Environment) : Refuses (ofEnvironment env) := by
  have hstore : ∀ e ∈ storeFields env, Refuses e := by
    simp [storeFields, refuses_textField, refuses_intField, refuses_floatField]
  have hlocks : ∀ e ∈ lockFields env, Refuses e := by
    simp [lockFields, refuses_textField, refuses_intField]
  exact (Refuses.mapM hstore).bind fun _ => (Refuses.mapM hlocks).bind fun _ =>
    refuses_validate _ _

/-! ## Files -/

/-- A path leads to a document in which a scalar does not fit its tag, or an escape no character at all
(`Yaml.Fault.mistagged`). -/
def Mistagged (files : String → FileState) (reach : Nat) (path : String) : Prop :=
  ∃ b text kind message, files (Path.normal path) = .contents b ∧ Utf8.decode b = .ok text ∧
    Yaml.Document.parse reach (String.ofList (Text.unifiedLines text.toList)) =
      .error (.mistagged kind message)

/-- A path leads to a document with collections inside each other for more levels than can be followed. -/
def Overnested (files : String → FileState) (reach : Nat) (path : String) : Prop :=
  ∃ b text, files (Path.normal path) = .contents b ∧ Utf8.decode b = .ok text ∧
    Yaml.Document.parse reach (String.ofList (Text.unifiedLines text.toList)) = .error .overnested

/-- What keeps a file from giving settings is the fault of the file system, of a document or of a value,
unless a scalar does not fit its tag or the document is nested too deeply. -/
theorem ofFile_fault {files : String → FileState} {reach : Nat} {path : String} {f : Failure}
    (h : ofFile files reach path = .error f) :
    Mistagged files reach path ∨ Overnested files reach path ∨
      f.isA .value = true ∨ f.isA .system = true ∨ f.isA .document = true := by
  unfold ofFile at h
  dsimp only at h
  split at h
  · cases h
    exact .inr (.inr (.inl rfl))
  split at h
  · cases h
    exact .inr (.inr (.inr (.inl rfl)))
  · cases h
    exact .inr (.inr (.inr (.inl rfl)))
  · cases h
    exact .inr (.inr (.inr (.inl rfl)))
  · rename_i b hb
    unfold ofBytes at h
    cases htext : Utf8.decode b with
    | error e =>
      rw [htext] at h
      cases h
      exact .inr (.inr (.inl rfl))
    | ok text =>
      simp only [htext, Except.mapError, bind, Except.bind] at h
      cases hdocument : Yaml.Document.parse reach (String.ofList (Text.unifiedLines text.toList)) with
      | error fault =>
        rw [hdocument] at h
        cases h
        cases fault with
        | malformed => exact .inr (.inr (.inr (.inr rfl)))
        | value message => exact .inr (.inr (.inl rfl))
        | mistagged kind message => exact .inl ⟨b, text, kind, message, hb, htext, hdocument⟩
        | overnested => exact .inr (.inl ⟨b, text, hb, htext, hdocument⟩)
      | ok v =>
        rw [hdocument] at h
        exact .inr (.inr (.inl (Failure.isA_of_kind (refuses_validate _ _ f h) .value)))

end Settings
end Leasehold

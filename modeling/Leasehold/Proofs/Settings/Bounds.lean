import Leasehold.Proofs.Settings.Fields
import Leasehold.Settings.Document
import Leasehold.Settings.Environment
import Mathlib

/-!
# The ranges of settings

What validation accepts keeps to its ranges, wherever it comes from.

- **Ranges** (`StoreSettings.InRange`, `LockSettings.InRange`) of the settings that come out of validation
  (`StoreSettings.ReadFrom.inRange`, `LockSettings.ReadFrom.inRange`).
- **Sources** (`Settings.ofEnvironment_eq_ok_iff`, `Settings.validate_of_ofFile`): the data that environment
  variables or a file put to validation.
- **Lock settings** that come out of validation by one way or another (`LockSettings.Accepted`).
-/

namespace Leasehold

variable {α : Type}

/-- What holds of the default and of whatever is read holds of a field. -/
theorem Checked.field_forall (P : α → Prop) {data : Value} {name : String} {default a : α}
    {read : Value → Coercion.Read α} (h : field data name default read = .valid a)
    (start : P default) (given : ∀ v, read v = .ok a → P a) : P a := by
  rcases field_eq_valid_iff.mp h with ⟨-, rfl⟩ | ⟨v, -, hread⟩
  · exact start
  · exact given v hread

/-- What holds of the default and of whatever is accepted holds of a nested model. -/
theorem Checked.model_forall (P : α → Prop) {data : Value} {name : String} {default a : α}
    {check : Value → Checked α} (h : model data name default check = .valid a)
    (start : P default) (given : ∀ v, check v = .valid a → P a) : P a := by
  rcases model_eq_valid_iff.mp h with ⟨-, rfl⟩ | ⟨v, -, hcheck⟩
  · exact start
  · exact given v hcheck

open Checked Coercion

/-! ## Ranges -/

namespace StoreSettings

/-- The ranges of the numbers among the store's settings. -/
structure InRange (s : StoreSettings) : Prop where
  port : 0 < s.port ∧ s.port < 65536
  database : 0 ≤ s.database
  attempts : 0 ≤ s.reconnectAttempts
  connectTimeout : s.connectTimeout.isPositive = true
  socketTimeout : ∀ x, s.socketTimeout = some x → x.isPositive = true
  backoff : s.reconnectBackoff.isNonNegative = true

theorem inRange_defaults : defaults.InRange :=
  ⟨by decide, by decide, by decide, by decide, by simp, by decide⟩

theorem ReadFrom.inRange {data : Value} {s : StoreSettings} (h : s.ReadFrom data) : s.InRange where
  port := field_forall (fun n => 0 < n ∧ n < 65536) h.port inRange_defaults.port fun _ hread =>
    (intBetween_eq_ok_iff.mp hread).2
  database := field_forall (0 ≤ ·) h.database inRange_defaults.database fun _ hread =>
    (intAtLeast_eq_ok_iff.mp hread).2
  attempts := field_forall (0 ≤ ·) h.reconnectAttempts inRange_defaults.attempts fun _ hread =>
    (intAtLeast_eq_ok_iff.mp hread).2
  connectTimeout := field_forall (·.isPositive = true) h.connectTimeout inRange_defaults.connectTimeout
    fun _ hread => (positiveFloat_eq_ok_iff.mp hread).2
  socketTimeout := by
    refine field_forall (fun a => ∀ x, a = some x → x.isPositive = true) h.socketTimeout
      inRange_defaults.socketTimeout fun v hread x hx => ?_
    rcases optional_eq_ok_iff.mp hread with ⟨-, hnone⟩ | ⟨-, y, hy, hsome⟩
    · rw [hnone] at hx
      cases hx
    · rw [hsome] at hx
      cases hx
      exact (positiveFloat_eq_ok_iff.mp hy).2
  backoff := field_forall (·.isNonNegative = true) h.reconnectBackoff inRange_defaults.backoff
    fun _ hread => (nonNegativeFloat_eq_ok_iff.mp hread).2

end StoreSettings

namespace LockSettings

/-- Lock settings keep to the ranges of the parameters that they stand in for. -/
structure InRange (s : LockSettings) : Prop where
  ttl : 0 < s.defaultTtl
  interval : 0 < s.pollInterval
  timeout : 0 ≤ s.waitTimeout
  retries : 1 ≤ s.maxRetries

theorem inRange_defaults : defaults.InRange := ⟨by decide, by decide, by decide, by decide⟩

theorem ReadFrom.inRange {data : Value} {s : LockSettings} (h : s.ReadFrom data) : s.InRange where
  ttl := field_forall (0 < ·) h.defaultTtl inRange_defaults.ttl fun _ hread =>
    (intAbove_eq_ok_iff.mp hread).2
  interval := field_forall (0 < ·) h.pollInterval inRange_defaults.interval fun _ hread =>
    (intAbove_eq_ok_iff.mp hread).2
  timeout := field_forall (0 ≤ ·) h.waitTimeout inRange_defaults.timeout fun _ hread =>
    (intAtLeast_eq_ok_iff.mp hread).2
  retries := field_forall (1 ≤ ·) h.maxRetries inRange_defaults.retries fun _ hread =>
    (intAtLeast_eq_ok_iff.mp hread).2

end LockSettings

namespace Settings

theorem ReadFrom.store_inRange {data : Value} {s : Settings} (h : s.ReadFrom data) :
    s.store.InRange :=
  model_forall StoreSettings.InRange h.store StoreSettings.inRange_defaults fun _ hcheck =>
    (StoreSettings.validate_eq_valid_iff.mp hcheck).2.inRange

theorem ReadFrom.locks_inRange {data : Value} {s : Settings} (h : s.ReadFrom data) :
    s.locks.InRange :=
  model_forall LockSettings.InRange h.locks LockSettings.inRange_defaults fun _ hcheck =>
    (LockSettings.validate_eq_valid_iff.mp hcheck).2.inRange

/-! ## Sources -/

theorem isMapping_given (fields : List FieldValue) : (given fields).IsMapping :=
  Value.isMapping_record _

/-- What the environment describes is what validation makes of the fields that are set. -/
theorem ofEnvironment_eq_ok_iff {env : Environment} {s : Settings} :
    ofEnvironment env = .ok s ↔
      ∃ store locks, (storeFields env).mapM id = .ok store ∧ (lockFields env).mapM id = .ok locks ∧
        s.store.ReadFrom (given store) ∧ s.locks.ReadFrom (given locks) := by
  unfold ofEnvironment
  cases (storeFields env).mapM id with
  | error f => simp [bind, Except.bind]
  | ok store =>
    cases (lockFields env).mapM id with
    | error f => simp [bind, Except.bind]
    | ok locks =>
      have hvalid := validate_record_iff (s := s) (isMapping_given store) (isMapping_given locks)
      simp [bind, Except.bind, toExcept_eq_ok_iff, hvalid]

/-- The data that a file holds: its document, or no fields if the document is empty or zero. -/
def Holds (files : String → FileState) (reach : Nat) (path : String) (data : Value) : Prop :=
  ∃ b text v, files (Path.normal path) = .contents b ∧ Utf8.decode b = .ok text ∧
    Yaml.Document.parse reach (String.ofList (Text.unifiedLines text.toList)) = .ok v ∧
    data = if v.isTruthy then v else .mapping []

/-- What a file describes is what validation makes of the data that it holds. -/
theorem validate_of_ofFile {files : String → FileState} {reach : Nat} {path : String} {s : Settings}
    (h : ofFile files reach path = .ok s) :
    ∃ data, Holds files reach path data ∧ validate data = .valid s := by
  unfold ofFile at h
  dsimp only at h
  split at h
  · cases h
  split at h
  · cases h
  · cases h
  · cases h
  · rename_i b hb
    unfold ofBytes at h
    cases htext : Utf8.decode b with
    | error e => rw [htext] at h; cases h
    | ok text =>
      simp only [htext, Except.mapError, bind, Except.bind] at h
      cases hdocument : Yaml.Document.parse reach (String.ofList (Text.unifiedLines text.toList)) with
      | error fault => rw [hdocument] at h; cases h
      | ok v =>
        rw [hdocument] at h
        exact ⟨_, ⟨b, text, v, hb, htext, hdocument, rfl⟩, toExcept_eq_ok_iff.mp h⟩

end Settings

/-! ## Lock settings -/

/-- Lock settings that validation accepts: on their own, or among all settings from data, from the
environment or from a file. -/
inductive LockSettings.Accepted : LockSettings → Prop where
  | alone {v : Value} {s : LockSettings} (valid : LockSettings.validate v = .valid s) : Accepted s
  | nested {v : Value} {s : Settings} (valid : Settings.validate v = .valid s) : Accepted s.locks
  | environment {env : Environment} {s : Settings} (loaded : Settings.ofEnvironment env = .ok s) :
      Accepted s.locks
  | file {files : String → FileState} {reach : Nat} {path : String} {s : Settings}
      (loaded : Settings.ofFile files reach path = .ok s) : Accepted s.locks

theorem LockSettings.Accepted.inRange {s : LockSettings} (h : s.Accepted) : s.InRange := by
  have hall {v : Value} {s : Settings} (valid : Settings.validate v = .valid s) : s.locks.InRange :=
    (Settings.validate_eq_valid_iff.mp valid).2.locks_inRange
  cases h with
  | alone valid => exact (validate_eq_valid_iff.mp valid).2.inRange
  | nested valid => exact hall valid
  | environment loaded =>
    obtain ⟨_, _, -, -, -, hlocks⟩ := Settings.ofEnvironment_eq_ok_iff.mp loaded
    exact hlocks.inRange
  | file loaded =>
    obtain ⟨_, -, valid⟩ := Settings.validate_of_ofFile loaded
    exact hall valid

end Leasehold

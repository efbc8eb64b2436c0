import Leasehold.Proofs.Settings.Bounds
import Leasehold.Proofs.Settings.Variables
import Mathlib

/-!
# Accepted settings

- **Dumps** (`StoreSettings.validate_dump_iff`, `LockSettings.validate_dump_iff`,
  `Settings.validate_dump_iff`): validation gives settings back from their own dump exactly when they keep
  to their ranges.
- **Defaults** (`StoreSettings.ReadFrom.completes`, `LockSettings.ReadFrom.completes`): under a name that
  the data does not give, the dump holds the default.
- **Acceptance** (`Settings.Sound`, `Settings.SoundIn`): what is accepted of data, of a document or of
  environment variables keeps to its ranges, has the defaults of what is not given, and is accepted again as
  it is (`Settings.accepted_sound`).
-/

namespace Leasehold

open Checked Coercion

variable {α : Type}

/-! ## Dumps -/

namespace Coercion

theorem optional_ofText (a : Option String) : optional asText (.ofText? a) = .ok a := by
  cases a <;> rfl

theorem optional_ofFloat {a : Option Binary64} (h : ∀ x, a = some x → x.isPositive = true) :
    optional positiveFloat (.ofFloat? a) = .ok a := by
  cases a with
  | none => rfl
  | some x =>
    exact optional_eq_ok_iff.mpr (.inr ⟨by simp [Value.ofFloat?], x,
      positiveFloat_eq_ok_iff.mpr ⟨rfl, h x rfl⟩, rfl⟩)

end Coercion

/-- A field of a record is what is read of the value under its name. -/
theorem Checked.field_record {fields : List (String × Value)} {name : String} {default a : α} {v : Value}
    {read : Value → Read α} (hfield : fields.lookup name = some v) (hread : read v = .ok a) :
    field (.record fields) name default read = .valid a :=
  field_eq_valid_iff.mpr (.inr ⟨v, (Value.field?_record fields name).trans hfield, hread⟩)

namespace StoreSettings

variable {s : StoreSettings}

theorem InRange.readFrom_dump (h : s.InRange) : s.ReadFrom s.dump where
  host := field_record rfl rfl
  port := field_record rfl (intBetween_eq_ok_iff.mpr ⟨rfl, h.port⟩)
  database := field_record rfl (intAtLeast_eq_ok_iff.mpr ⟨rfl, h.database⟩)
  password := field_record rfl (optional_ofText s.password)
  url := field_record rfl (optional_ofText s.url)
  connectTimeout := field_record rfl (positiveFloat_eq_ok_iff.mpr ⟨rfl, h.connectTimeout⟩)
  socketTimeout := field_record rfl (optional_ofFloat h.socketTimeout)
  reconnectAttempts := field_record rfl (intAtLeast_eq_ok_iff.mpr ⟨rfl, h.attempts⟩)
  reconnectBackoff := field_record rfl (nonNegativeFloat_eq_ok_iff.mpr ⟨rfl, h.backoff⟩)
  decodesReplies := field_record rfl rfl

theorem isMapping_dump (s : StoreSettings) : s.dump.IsMapping := Value.isMapping_record _

theorem readFrom_dump_iff : s.ReadFrom s.dump ↔ s.InRange :=
  ⟨fun h => h.inRange, fun h => h.readFrom_dump⟩

/-- The store's settings are given back from their own dump exactly when they keep to their ranges. -/
theorem validate_dump_iff : validate s.dump = .valid s ↔ s.InRange := by
  rw [validate_eq_valid_iff, and_iff_right s.isMapping_dump, readFrom_dump_iff]

end StoreSettings

namespace LockSettings

variable {s : LockSettings}

theorem InRange.readFrom_dump (h : s.InRange) : s.ReadFrom s.dump where
  keyPrefix := field_record rfl rfl
  defaultTtl := field_record rfl (intAbove_eq_ok_iff.mpr ⟨rfl, h.ttl⟩)
  pollInterval := field_record rfl (intAbove_eq_ok_iff.mpr ⟨rfl, h.interval⟩)
  waitTimeout := field_record rfl (intAtLeast_eq_ok_iff.mpr ⟨rfl, h.timeout⟩)
  maxRetries := field_record rfl (intAtLeast_eq_ok_iff.mpr ⟨rfl, h.retries⟩)

theorem isMapping_dump (s : LockSettings) : s.dump.IsMapping := Value.isMapping_record _

theorem readFrom_dump_iff : s.ReadFrom s.dump ↔ s.InRange :=
  ⟨fun h => h.inRange, fun h => h.readFrom_dump⟩

/-- Lock settings are given back from their own dump exactly when they keep to their ranges. -/
theorem validate_dump_iff : validate s.dump = .valid s ↔ s.InRange := by
  rw [validate_eq_valid_iff, and_iff_right s.isMapping_dump, readFrom_dump_iff]

end LockSettings

namespace Settings

variable {s : Settings}

/-- Settings of both models that keep to their ranges. -/
structure InRange (s : Settings) : Prop where
  store : s.store.InRange
  locks : s.locks.InRange

theorem ReadFrom.inRange {data : Value} (h : s.ReadFrom data) : s.InRange :=
  ⟨h.store_inRange, h.locks_inRange⟩

/-- Settings are given back from their own dump exactly when they keep to their ranges. -/
theorem validate_dump_iff : validate s.dump = .valid s ↔ s.InRange := by
  unfold dump
  rw [validate_record_iff s.store.isMapping_dump s.locks.isMapping_dump,
    StoreSettings.readFrom_dump_iff, LockSettings.readFrom_dump_iff]
  exact ⟨fun h => ⟨h.1, h.2⟩, fun h => ⟨h.store, h.locks⟩⟩

end Settings

/-! ## Defaults -/

/-- Under every name that the data does not give, the result holds the default. -/
def Value.Completes (data result defaults : Value) : Prop :=
  ∀ name, data.field? name = none → result.field? name = defaults.field? name

theorem Value.field?_record_congr {fields fields' : List (String × Value)} {name : String}
    (h : List.Forall₂ (fun f f' => f.1 = f'.1 ∧ (f.1 = name → f.2 = f'.2)) fields fields') :
    (record fields).field? name = (record fields').field? name := by
  rw [field?_record, field?_record]
  induction h with
  | nil => rfl
  | @cons f f' rest rest' hf _ ih =>
    obtain ⟨key, v⟩ := f
    obtain ⟨key', v'⟩ := f'
    obtain ⟨rfl, hsame⟩ := hf
    rw [lookup_cons_eq_ite, lookup_cons_eq_ite, ih]
    split
    · rename_i hname
      obtain rfl : v = v' := hsame hname
      rfl
    · rfl

/-- A field that the data does not give has its default. -/
theorem Checked.default_of_missing {data : Value} {key name : String} {default a : α}
    {read : Value → Read α} (write : α → Value) (h : field data key default read = .valid a)
    (hmissing : data.field? name = none) : key = name → write a = write default := by
  rintro rfl
  rcases field_eq_valid_iff.mp h with ⟨-, rfl⟩ | ⟨v, hgiven, -⟩
  · rfl
  · rw [hmissing] at hgiven
    cases hgiven

theorem StoreSettings.ReadFrom.completes {data : Value} {s : StoreSettings} (h : s.ReadFrom data) :
    data.Completes s.dump StoreSettings.defaults.dump := fun _ hmissing =>
  Value.field?_record_congr <|
    .cons ⟨rfl, default_of_missing .text h.host hmissing⟩ <|
    .cons ⟨rfl, default_of_missing .int h.port hmissing⟩ <|
    .cons ⟨rfl, default_of_missing .int h.database hmissing⟩ <|
    .cons ⟨rfl, default_of_missing .ofText? h.password hmissing⟩ <|
    .cons ⟨rfl, default_of_missing .ofText? h.url hmissing⟩ <|
    .cons ⟨rfl, default_of_missing .float h.connectTimeout hmissing⟩ <|
    .cons ⟨rfl, default_of_missing .ofFloat? h.socketTimeout hmissing⟩ <|
    .cons ⟨rfl, default_of_missing .int h.reconnectAttempts hmissing⟩ <|
    .cons ⟨rfl, default_of_missing .float h.reconnectBackoff hmissing⟩ <|
    .cons ⟨rfl, default_of_missing .bool h.decodesReplies hmissing⟩ .nil

theorem LockSettings.ReadFrom.completes {data : Value} {s : LockSettings} (h : s.ReadFrom data) :
    data.Completes s.dump LockSettings.defaults.dump := fun _ hmissing =>
  Value.field?_record_congr <|
    .cons ⟨rfl, default_of_missing .text h.keyPrefix hmissing⟩ <|
    .cons ⟨rfl, default_of_missing .int h.defaultTtl hmissing⟩ <|
    .cons ⟨rfl, default_of_missing .int h.pollInterval hmissing⟩ <|
    .cons ⟨rfl, default_of_missing .int h.waitTimeout hmissing⟩ <|
    .cons ⟨rfl, default_of_missing .int h.maxRetries hmissing⟩ .nil

/-! ## Acceptance -/

/-- What is wanted of the store's settings that are accepted of data. -/
structure StoreSettings.Sound (data : Value) (s : StoreSettings) : Prop where
  inRange : s.InRange
  completes : data.Completes s.dump StoreSettings.defaults.dump
  again : validate s.dump = .valid s

theorem StoreSettings.ReadFrom.sound {data : Value} {s : StoreSettings} (h : s.ReadFrom data) :
    s.Sound data :=
  ⟨h.inRange, h.completes, validate_dump_iff.mpr h.inRange⟩

/-- What is wanted of lock settings that are accepted of data. -/
structure LockSettings.Sound (data : Value) (s : LockSettings) : Prop where
  inRange : s.InRange
  completes : data.Completes s.dump LockSettings.defaults.dump
  again : validate s.dump = .valid s

theorem LockSettings.ReadFrom.sound {data : Value} {s : LockSettings} (h : s.ReadFrom data) :
    s.Sound data :=
  ⟨h.inRange, h.completes, validate_dump_iff.mpr h.inRange⟩

namespace Settings

/-- What is wanted of settings that are accepted of data: a model that is not given has all its defaults,
and one that is given has those of the fields not given in it. -/
structure Sound (data : Value) (s : Settings) : Prop where
  inRange : s.InRange
  store_default : data.field? "redis" = none → s.store = StoreSettings.defaults
  store_sound : ∀ given, data.field? "redis" = some given → s.store.Sound given
  locks_default : data.field? "locks" = none → s.locks = LockSettings.defaults
  locks_sound : ∀ given, data.field? "locks" = some given → s.locks.Sound given
  again : validate s.dump = .valid s

theorem ReadFrom.sound {data : Value} {s : Settings} (h : s.ReadFrom data) : s.Sound data where
  inRange := h.inRange
  store_default hmissing := (model_of_missing hmissing).mp h.store
  store_sound _ hgiven :=
    (StoreSettings.validate_eq_valid_iff.mp ((model_of_given hgiven).mp h.store)).2.sound
  locks_default hmissing := (model_of_missing hmissing).mp h.locks
  locks_sound _ hgiven :=
    (LockSettings.validate_eq_valid_iff.mp ((model_of_given hgiven).mp h.locks)).2.sound
  again := validate_dump_iff.mpr h.inRange

/-- What is wanted of settings that are accepted of environment variables: a field whose variables are all
unset has its default. -/
structure SoundIn (env : Environment) (s : Settings) : Prop where
  inRange : s.InRange
  store : ∀ name, Unset env storeVariables name →
    s.store.dump.field? name = StoreSettings.defaults.dump.field? name
  locks : ∀ name, Unset env lockVariables name →
    s.locks.dump.field? name = LockSettings.defaults.dump.field? name
  again : validate s.dump = .valid s

theorem soundIn_of_ofEnvironment {env : Environment} {s : Settings} (h : ofEnvironment env = .ok s) :
    s.SoundIn env := by
  obtain ⟨store, locks, hstore, hlocks, hread⟩ := ofEnvironment_eq_ok_iff.mp h
  have hrange : s.InRange := ⟨hread.1.inRange, hread.2.inRange⟩
  exact {
    inRange := hrange
    store := fun _ hunset =>
      hread.1.completes _ (given_of_unset (forall₂_sets (storeFields_setsIn env) hstore) hunset)
    locks := fun _ hunset =>
      hread.2.completes _ (given_of_unset (forall₂_sets (lockFields_setsIn env) hlocks) hunset)
    again := validate_dump_iff.mpr hrange }

/-- **What validation accepts is in order and stays so.** Settings in their ranges, and no others, are accepted
as they are. Settings that are accepted of whatever data, document or variables are among them, and have the
defaults of what is not given. -/
theorem accepted_sound :
    (∀ s, validate s.dump = .valid s ↔ s.InRange) ∧
      (∀ data (s : StoreSettings), StoreSettings.validate data = .valid s → s.Sound data) ∧
      (∀ data (s : LockSettings), LockSettings.validate data = .valid s → s.Sound data) ∧
      (∀ data s, validate data = .valid s → s.Sound data) ∧
      (∀ files reach path s, ofFile files reach path = .ok s →
        ∃ data, Holds files reach path data ∧ s.Sound data) ∧
      ∀ env s, ofEnvironment env = .ok s → s.SoundIn env := by
  have hdata (data : Value) (s : Settings) (h : validate data = .valid s) : s.Sound data :=
    (validate_eq_valid_iff.mp h).2.sound
  refine ⟨fun _ => validate_dump_iff, fun _ _ h => (StoreSettings.validate_eq_valid_iff.mp h).2.sound,
    fun _ _ h => (LockSettings.validate_eq_valid_iff.mp h).2.sound, hdata, fun files reach path s h => ?_,
    fun _ _ => soundIn_of_ofEnvironment⟩
  obtain ⟨data, hholds, hvalid⟩ := validate_of_ofFile h
  exact ⟨data, hholds, hdata data s hvalid⟩

/-- Fields in several spellings, one of them null, beside names that are none. -/
def spelled : Value := .record [
  ("redis", .record [("port", .text " 6_380.0"), ("db", .bool true), ("password", .null),
    ("reconnect_attempts", .float (.ofInt 2)), ("color", .int 1)]),
  ("locks", .record [("max_retries", .text "+07"), ("wait_timeout_ms", .text "0")]),
  ("version", .int 2)]

/-- What the spellings stand for. -/
def plainlySpelled : Settings where
  store := { port := 6380, database := 1, reconnectAttempts := 2 }
  locks := { waitTimeout := 0, maxRetries := 7 }

/-- A port, and a blank host. -/
def portOnly : Environment := ⟨[("REDIS_PORT", " 6_380 "), ("REDIS_HOST", " ")]⟩

theorem spelled_sound :
    (validate spelled = .valid plainlySpelled ∧ plainlySpelled.Sound spelled) ∧
      ofEnvironment portOnly = .ok { store := { port := 6380 } } ∧
        SoundIn portOnly { store := { port := 6380 } } := by
  have hdata : validate spelled = .valid plainlySpelled := by rfl
  have hvariables : ofEnvironment portOnly = .ok { store := { port := 6380 } } := by rfl
  obtain ⟨-, -, -, hall, -, hloaded⟩ := accepted_sound
  exact ⟨⟨hdata, hall _ _ hdata⟩, hvariables, hloaded _ _ hvariables⟩

end Settings

end Leasehold

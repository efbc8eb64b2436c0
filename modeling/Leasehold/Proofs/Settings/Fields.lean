import Leasehold.Settings.Validation

/-!
# Settings field by field

- **Single values** (`Coercion.requiring_eq_ok_iff`, `Coercion.optional_eq_ok_iff`): what a reader with a
  rule, or of a value that may be absent, makes of a value.
- **Fields by name** (`Value.field?_record`): what a record holds under a name.
- **One field** (`Checked.field_eq_valid_iff`): it has its default if the data does not give it, and else
  what is read of the data.
- **Models** (`StoreSettings.validate_eq_valid_iff`, `LockSettings.validate_eq_valid_iff`,
  `Settings.validate_eq_valid_iff`): settings come out of validation exactly when each of their fields is
  read from the data (`StoreSettings.ReadFrom`, `LockSettings.ReadFrom`, `Settings.ReadFrom`).
-/

namespace Leasehold

variable {α β : Type}

/-! ## Single values -/

namespace Coercion

variable {v : Value} {read : Value → Read α}

theorem requiring_eq_ok_iff {holds : α → Bool} {rule : Issue.Rule} {a : α} :
    requiring holds rule read v = .ok a ↔ read v = .ok a ∧ holds a = true := by
  unfold requiring
  cases hread : read v with
  | error e => simp
  | ok b =>
    by_cases hb : holds b
    · simp only [hb, if_true, Except.ok.injEq, iff_self_and]
      rintro rfl
      exact hb
    · simp only [hb, Except.ok.injEq]
      constructor
      · intro h
        cases h
      · rintro ⟨rfl, ha⟩
        exact absurd ha hb

theorem intAbove_eq_ok_iff {bound n : Int} :
    intAbove bound v = .ok n ↔ asInt v = .ok n ∧ bound < n := by
  simp [intAbove, requiring_eq_ok_iff]

theorem intAtLeast_eq_ok_iff {bound n : Int} :
    intAtLeast bound v = .ok n ↔ asInt v = .ok n ∧ bound ≤ n := by
  simp [intAtLeast, requiring_eq_ok_iff]

theorem intBetween_eq_ok_iff {low high n : Int} :
    intBetween low high v = .ok n ↔ asInt v = .ok n ∧ low < n ∧ n < high := by
  simp [intBetween, requiring_eq_ok_iff, intAbove_eq_ok_iff, and_assoc]

theorem positiveFloat_eq_ok_iff {x : Binary64} :
    positiveFloat v = .ok x ↔ asFloat v = .ok x ∧ x.isPositive = true := requiring_eq_ok_iff

theorem nonNegativeFloat_eq_ok_iff {x : Binary64} :
    nonNegativeFloat v = .ok x ↔ asFloat v = .ok x ∧ x.isNonNegative = true := requiring_eq_ok_iff

theorem optional_eq_ok_iff {a : Option α} :
    optional read v = .ok a ↔
      v = .null ∧ a = none ∨ v ≠ .null ∧ ∃ b, read v = .ok b ∧ a = some b := by
  cases v with
  | null => simp [optional, eq_comm]
  | _ => simp only [optional]; cases read _ <;> simp [Except.map, eq_comm]

end Coercion

/-! ## Fields by name -/

/-- What stands under a name: the first value with that name. -/
theorem lookup_cons_eq_ite (key : String) (a : α) (rest : List (String × α)) (name : String) :
    ((key, a) :: rest).lookup name = if key = name then some a else rest.lookup name := by
  rw [List.lookup_cons]
  by_cases h : key = name
  · simp [h]
  · have hne : (name == key) = false := by simpa using Ne.symm h
    simp only [hne, if_neg h]

theorem Value.field?_record (fields : List (String × Value)) (name : String) :
    (Value.record fields).field? name = fields.lookup name := by
  induction fields with
  | nil => rfl
  | cons f rest ih =>
    obtain ⟨key, v⟩ := f
    simp only [record, field?, List.map_cons, List.find?_cons] at ih ⊢
    rw [lookup_cons_eq_ite]
    by_cases h : key = name
    · simp [h]
    · have hkey : (key == name) = false := by simpa using h
      simp only [hkey, if_neg h, ih]

/-- A value that has fields. -/
def Value.IsMapping (v : Value) : Prop := ∃ entries, v = .mapping entries

theorem Value.isMapping_record (fields : List (String × Value)) : (Value.record fields).IsMapping :=
  ⟨_, rfl⟩

/-! ## One field -/

namespace Checked

theorem map_eq_valid_iff {g : α → β} {a : Checked α} {b : β} :
    map g a = .valid b ↔ ∃ x, a = .valid x ∧ b = g x := by
  cases a with
  | valid x => simp [map, eq_comm]
  | invalid => simp [map]

theorem apply_eq_valid_iff {f : Checked (α → β)} {a : Checked α} {b : β} :
    f.apply a = .valid b ↔ ∃ g x, f = .valid g ∧ a = .valid x ∧ b = g x := by
  cases f with
  | valid g =>
    cases a with
    | valid x => simp [apply, eq_comm]
    | invalid => simp [apply]
  | invalid => cases a <;> simp [apply]

theorem mapping_eq_valid_iff {name : String} {check : Value → Checked α} {v : Value} {a : α} :
    mapping name check v = .valid a ↔ v.IsMapping ∧ check v = .valid a := by
  constructor
  · intro h
    unfold mapping at h
    split at h
    · exact ⟨⟨_, rfl⟩, h⟩
    · cases h
  · rintro ⟨⟨entries, rfl⟩, h⟩
    exact h

theorem field_eq_valid_iff {data : Value} {name : String} {default a : α}
    {read : Value → Coercion.Read α} :
    field data name default read = .valid a ↔
      data.field? name = none ∧ a = default ∨ ∃ v, data.field? name = some v ∧ read v = .ok a := by
  unfold field
  cases data.field? name with
  | none => simp [eq_comm]
  | some v => cases hread : read v <;> simp [hread]

theorem model_eq_valid_iff {data : Value} {name : String} {default a : α}
    {check : Value → Checked α} :
    model data name default check = .valid a ↔
      data.field? name = none ∧ a = default ∨ ∃ v, data.field? name = some v ∧ check v = .valid a := by
  unfold model
  cases data.field? name with
  | none => simp [eq_comm]
  | some v => cases hcheck : check v <;> simp [hcheck, within]

/-- A nested model that is not given has its default. -/
theorem model_of_missing {data : Value} {name : String} {default a : α} {check : Value → Checked α}
    (h : data.field? name = none) : model data name default check = .valid a ↔ a = default := by
  simp [model_eq_valid_iff, h]

/-- A nested model that is given is checked. -/
theorem model_of_given {data v : Value} {name : String} {default a : α} {check : Value → Checked α}
    (h : data.field? name = some v) : model data name default check = .valid a ↔ check v = .valid a := by
  simp [model_eq_valid_iff, h]

theorem toExcept_eq_ok_iff {failure : List Issue → Failure} {a : Checked α} {x : α} :
    a.toExcept failure = .ok x ↔ a = .valid x := by
  cases a <;> simp [toExcept]

end Checked

/-! ## Models -/

open Checked Coercion

/-- The store's settings if nothing is given. -/
abbrev StoreSettings.defaults : StoreSettings := {}

/-- Each field of the store's settings is read from the data. -/
structure StoreSettings.ReadFrom (data : Value) (s : StoreSettings) : Prop where
  host : field data "host" defaults.host asText = .valid s.host
  port : field data "port" defaults.port (intBetween 0 65536) = .valid s.port
  database : field data "db" defaults.database (intAtLeast 0) = .valid s.database
  password : field data "password" defaults.password (optional asText) = .valid s.password
  url : field data "url" defaults.url (optional asText) = .valid s.url
  connectTimeout :
    field data "connect_timeout_seconds" defaults.connectTimeout positiveFloat = .valid s.connectTimeout
  socketTimeout :
    field data "socket_timeout_seconds" defaults.socketTimeout (optional positiveFloat) = .valid s.socketTimeout
  reconnectAttempts : field data "reconnect_attempts" defaults.reconnectAttempts (intAtLeast 0) = .valid s.reconnectAttempts
  reconnectBackoff :
    field data "reconnect_backoff_seconds" defaults.reconnectBackoff nonNegativeFloat = .valid s.reconnectBackoff
  decodesReplies : field data "decode_responses" defaults.decodesReplies asBool = .valid s.decodesReplies

theorem StoreSettings.validate_eq_valid_iff {v : Value} {s : StoreSettings} :
    validate v = .valid s ↔ v.IsMapping ∧ s.ReadFrom v := by
  unfold validate
  rw [mapping_eq_valid_iff]
  refine and_congr_right fun _ => ⟨fun h => ?_, fun h => ?_⟩
  · obtain ⟨_, _, h₉, hdecodes, rfl⟩ := apply_eq_valid_iff.mp h
    obtain ⟨_, _, h₈, hbackoff, rfl⟩ := apply_eq_valid_iff.mp h₉
    obtain ⟨_, _, h₇, hattempts, rfl⟩ := apply_eq_valid_iff.mp h₈
    obtain ⟨_, _, h₆, hsocket, rfl⟩ := apply_eq_valid_iff.mp h₇
    obtain ⟨_, _, h₅, hconnect, rfl⟩ := apply_eq_valid_iff.mp h₆
    obtain ⟨_, _, h₄, hurl, rfl⟩ := apply_eq_valid_iff.mp h₅
    obtain ⟨_, _, h₃, hpassword, rfl⟩ := apply_eq_valid_iff.mp h₄
    obtain ⟨_, _, h₂, hdatabase, rfl⟩ := apply_eq_valid_iff.mp h₃
    obtain ⟨_, _, h₁, hport, rfl⟩ := apply_eq_valid_iff.mp h₂
    obtain ⟨_, hhost, rfl⟩ := map_eq_valid_iff.mp h₁
    exact ⟨hhost, hport, hdatabase, hpassword, hurl, hconnect, hsocket, hattempts, hbackoff, hdecodes⟩
  · dsimp only
    rw [h.host, h.port, h.database, h.password, h.url, h.connectTimeout, h.socketTimeout,
      h.reconnectAttempts, h.reconnectBackoff, h.decodesReplies]
    rfl

/-- Lock settings if nothing is given. -/
abbrev LockSettings.defaults : LockSettings := {}

/-- Each field of lock settings is read from the data. -/
structure LockSettings.ReadFrom (data : Value) (s : LockSettings) : Prop where
  keyPrefix : field data "key_prefix" defaults.keyPrefix asText = .valid s.keyPrefix
  defaultTtl : field data "default_ttl_ms" defaults.defaultTtl (intAbove 0) = .valid s.defaultTtl
  pollInterval : field data "poll_interval_ms" defaults.pollInterval (intAbove 0) = .valid s.pollInterval
  waitTimeout : field data "wait_timeout_ms" defaults.waitTimeout (intAtLeast 0) = .valid s.waitTimeout
  maxRetries : field data "max_retries" defaults.maxRetries (intAtLeast 1) = .valid s.maxRetries

theorem LockSettings.validate_eq_valid_iff {v : Value} {s : LockSettings} :
    validate v = .valid s ↔ v.IsMapping ∧ s.ReadFrom v := by
  unfold validate
  rw [mapping_eq_valid_iff]
  refine and_congr_right fun _ => ⟨fun h => ?_, fun h => ?_⟩
  · obtain ⟨_, _, h₄, hretries, rfl⟩ := apply_eq_valid_iff.mp h
    obtain ⟨_, _, h₃, htimeout, rfl⟩ := apply_eq_valid_iff.mp h₄
    obtain ⟨_, _, h₂, hinterval, rfl⟩ := apply_eq_valid_iff.mp h₃
    obtain ⟨_, _, h₁, httl, rfl⟩ := apply_eq_valid_iff.mp h₂
    obtain ⟨_, hkey, rfl⟩ := map_eq_valid_iff.mp h₁
    exact ⟨hkey, httl, hinterval, htimeout, hretries⟩
  · dsimp only
    rw [h.keyPrefix, h.defaultTtl, h.pollInterval, h.waitTimeout, h.maxRetries]
    rfl

/-- Both models are read from the data. -/
structure Settings.ReadFrom (data : Value) (s : Settings) : Prop where
  store : model data "redis" StoreSettings.defaults StoreSettings.validate = .valid s.store
  locks : model data "locks" LockSettings.defaults LockSettings.validate = .valid s.locks

theorem Settings.validate_eq_valid_iff {v : Value} {s : Settings} :
    validate v = .valid s ↔ v.IsMapping ∧ s.ReadFrom v := by
  unfold validate
  rw [mapping_eq_valid_iff]
  refine and_congr_right fun _ => ⟨fun h => ?_, fun h => ?_⟩
  · obtain ⟨_, _, h₁, hlocks, rfl⟩ := apply_eq_valid_iff.mp h
    obtain ⟨_, hstore, rfl⟩ := map_eq_valid_iff.mp h₁
    exact ⟨hstore, hlocks⟩
  · rw [h.store, h.locks]
    rfl

/-- A mapping of both models is read model by model. -/
theorem Settings.validate_record_iff {store locks : Value} {s : Settings} (hstore : store.IsMapping)
    (hlocks : locks.IsMapping) :
    validate (.record [("redis", store), ("locks", locks)]) = .valid s ↔
      s.store.ReadFrom store ∧ s.locks.ReadFrom locks := by
  let data := Value.record [("redis", store), ("locks", locks)]
  have hredis : data.field? "redis" = some store := Value.field?_record _ _
  have hlocks' : data.field? "locks" = some locks := Value.field?_record _ _
  have hboth : s.ReadFrom data ↔
      StoreSettings.validate store = .valid s.store ∧ LockSettings.validate locks = .valid s.locks :=
    ⟨fun h => ⟨(model_of_given hredis).mp h.store, (model_of_given hlocks').mp h.locks⟩,
      fun h => ⟨(model_of_given hredis).mpr h.1, (model_of_given hlocks').mpr h.2⟩⟩
  rw [validate_eq_valid_iff, and_iff_right (Value.isMapping_record _), hboth,
    StoreSettings.validate_eq_valid_iff, LockSettings.validate_eq_valid_iff, and_iff_right hstore,
    and_iff_right hlocks]

end Leasehold

import Leasehold.Proofs.Environment.Blanks
import Leasehold.Proofs.Number.Numeral
import Leasehold.Proofs.Settings.Revalidation
import Mathlib

/-!
# Settings through the environment

- **Carried settings** (`Settings.CarriedIn`): each field is written to its variable, or the variable is
  clear and the field has its default. So it is in the environment to which all fields are written
  (`Settings.carriedIn_written`).
- **Portable settings** (`Settings.Portable`): their texts and numbers are such as readers of the environment
  leave alone, and what has no variable has its default.
- **One variable** (`Settings.Gives`, `Settings.gives_text`, `Settings.gives_intField`): what a variable
  carries is read back from it.
- **Both models** (`Settings.CarriedIn.store_read`, `Settings.CarriedIn.locks_read`): every field is read
  back.
- **Return** (`Settings.portable_returns`): an environment that carries portable settings describes them.
-/

namespace Leasehold
namespace Settings

open Checked Coercion

variable {α : Type} {env : Environment} {s : Settings} {variableName field : String} {default a : α}

/-! ## Carried settings -/

/-- A variable carries a value: it holds the text that is written for the value, or it is clear and the
value is the default. -/
def Carries (env : Environment) (variableName : String) (write : α → Option String) (default a : α) :
    Prop :=
  (∃ text, write a = some text ∧ env.raw? variableName = some text) ∨
    a = default ∧ env.IsClear variableName

/-- Whole numbers are written in decimal. -/
def decimal (n : Int) : Option String := some (toString n)

/-- The environment carries settings in eleven variables, and the others that set a field are clear. -/
structure CarriedIn (env : Environment) (s : Settings) : Prop where
  host : Carries env "REDIS_HOST" some StoreSettings.defaults.host s.store.host
  port : Carries env "REDIS_PORT" decimal StoreSettings.defaults.port s.store.port
  database : Carries env "REDIS_DB" decimal StoreSettings.defaults.database s.store.database
  password : Carries env "REDIS_PASSWORD" id StoreSettings.defaults.password s.store.password
  url : Carries env "REDIS_URL" id StoreSettings.defaults.url s.store.url
  connectTimeout : env.IsClear "REDIS_CONNECT_TIMEOUT"
  socketTimeout : env.IsClear "REDIS_SOCKET_TIMEOUT"
  reconnectAttempts : Carries env "REDIS_RECONNECT_ATTEMPTS" decimal
    StoreSettings.defaults.reconnectAttempts s.store.reconnectAttempts
  reconnectBackoff : env.IsClear "REDIS_RECONNECT_BACKOFF"
  keyPrefix :
    Carries env "REDISCOORD_LOCK_PREFIX" some LockSettings.defaults.keyPrefix s.locks.keyPrefix
  defaultTtl :
    Carries env "REDISCOORD_LOCK_TTL_MS" decimal LockSettings.defaults.defaultTtl s.locks.defaultTtl
  pollInterval : Carries env "REDISCOORD_LOCK_POLL_MS" decimal LockSettings.defaults.pollInterval
    s.locks.pollInterval
  waitTimeout : Carries env "REDISCOORD_LOCK_WAIT_MS" decimal LockSettings.defaults.waitTimeout
    s.locks.waitTimeout
  maxRetries :
    Carries env "REDISCOORD_TX_MAX_RETRIES" decimal LockSettings.defaults.maxRetries s.locks.maxRetries

/-- The variables to which settings are written, each with its text if there is one. -/
def entries (s : Settings) : List (String × Option String) := [
  ("REDIS_HOST", some s.store.host), ("REDIS_PORT", decimal s.store.port),
  ("REDIS_DB", decimal s.store.database), ("REDIS_PASSWORD", s.store.password),
  ("REDIS_URL", s.store.url), ("REDIS_RECONNECT_ATTEMPTS", decimal s.store.reconnectAttempts),
  ("REDISCOORD_LOCK_PREFIX", some s.locks.keyPrefix),
  ("REDISCOORD_LOCK_TTL_MS", decimal s.locks.defaultTtl),
  ("REDISCOORD_LOCK_POLL_MS", decimal s.locks.pollInterval),
  ("REDISCOORD_LOCK_WAIT_MS", decimal s.locks.waitTimeout),
  ("REDISCOORD_TX_MAX_RETRIES", decimal s.locks.maxRetries)]

/-- The environment in which every field with a text is written. -/
def written (s : Settings) : Environment := ⟨present s.entries⟩

theorem raw?_written {v : Option String} (h : (variableName, v) ∈ s.entries) :
    s.written.raw? variableName = v :=
  lookup_present (by simp [entries]) h

theorem carries_written {write : α → Option String} (h : (variableName, write a) ∈ s.entries)
    (hdefault : write a = none → a = default) : Carries s.written variableName write default a := by
  have hraw := raw?_written h
  cases htext : write a with
  | none =>
    refine .inr ⟨hdefault htext, fun raw hset => ?_⟩
    rw [hraw, htext] at hset
    cases hset
  | some text => exact .inl ⟨text, htext, hraw.trans htext⟩

theorem isClear_written (h : ∀ v, (variableName, v) ∉ s.entries) : s.written.IsClear variableName := by
  intro raw hset
  have hnone : s.written.raw? variableName = none :=
    lookup_present_eq_none fun v hv => absurd hv (h v)
  rw [hnone] at hset
  cases hset

/-- Settings are carried where they are written. -/
theorem carriedIn_written (s : Settings) : s.CarriedIn s.written where
  host := carries_written (by simp [entries]) (by simp)
  port := carries_written (by simp [entries]) (by simp [decimal])
  database := carries_written (by simp [entries]) (by simp [decimal])
  password := carries_written (by simp [entries]) id
  url := carries_written (by simp [entries]) id
  connectTimeout := isClear_written (by simp [entries])
  socketTimeout := isClear_written (by simp [entries])
  reconnectAttempts := carries_written (by simp [entries]) (by simp [decimal])
  reconnectBackoff := isClear_written (by simp [entries])
  keyPrefix := carries_written (by simp [entries]) (by simp)
  defaultTtl := carries_written (by simp [entries]) (by simp [decimal])
  pollInterval := carries_written (by simp [entries]) (by simp [decimal])
  waitTimeout := carries_written (by simp [entries]) (by simp [decimal])
  maxRetries := carries_written (by simp [entries]) (by simp [decimal])

/-! ## Portable settings -/

/-- A whole number that is not too long to be read back. -/
def IsShort (n : Int) : Prop := (Nat.toDigits 10 n.natAbs).length ≤ Numeral.integerDigitLimit

/-- Valid settings that come back from the environment. A null character in a text would not come back from a
process, but it does from an `Environment`, so none is excluded here. -/
structure Portable (s : Settings) : Prop where
  valid : ∃ data, validate data = .valid s
  host : s.store.host ≠ StoreSettings.defaults.host → Text.Bare s.store.host
  password : ∀ text, s.store.password = some text → Text.Bare text
  url : ∀ text, s.store.url = some text → Text.Bare text
  keyPrefix : s.locks.keyPrefix ≠ LockSettings.defaults.keyPrefix → Text.Bare s.locks.keyPrefix
  integers : ∀ n ∈ [s.store.port, s.store.database, s.store.reconnectAttempts, s.locks.defaultTtl,
    s.locks.pollInterval, s.locks.waitTimeout, s.locks.maxRetries], IsShort n
  connectTimeout : s.store.connectTimeout = StoreSettings.defaults.connectTimeout
  socketTimeout : s.store.socketTimeout = StoreSettings.defaults.socketTimeout
  reconnectBackoff : s.store.reconnectBackoff = StoreSettings.defaults.reconnectBackoff
  decodesReplies : s.store.decodesReplies = StoreSettings.defaults.decodesReplies

theorem Portable.inRange (h : s.Portable) : s.InRange := by
  obtain ⟨data, hvalid⟩ := h.valid
  exact (validate_eq_valid_iff.mp hvalid).2.inRange

/-! ## One variable -/

/-- A variable gives a field what the value is read from, or nothing if the value is the default. -/
def Gives (result : Except Failure FieldValue) (field : String) (default : α) (read : Value → Read α)
    (a : α) : Prop :=
  ∃ v, result = .ok (field, v) ∧ (v = none ∧ a = default ∨ ∃ w, v = some w ∧ read w = .ok a)

theorem Gives.ok {result : Except Failure FieldValue} {read : Value → Read α}
    (h : Gives result field default read a) : ∃ f, result = .ok f := by
  obtain ⟨v, hresult, -⟩ := h
  exact ⟨_, hresult⟩

theorem gives_textField (field : String) {write : α → Option String} {read : Value → Read α}
    (h : Carries env variableName write default a)
    (hbare : ∀ text, write a = some text → Text.Bare text ∨ text = "" ∧ a = default)
    (hread : ∀ text, write a = some text → read (.text text) = .ok a) :
    Gives (textField env field variableName) field default read a := by
  have hunset : a = default → env.IsClear variableName →
      Gives (textField env field variableName) field default read a := by
    intro ha hclear
    refine ⟨none, ?_, .inl ⟨rfl, ha⟩⟩
    rw [textField, Environment.text?_eq_none_iff.mpr hclear]
    rfl
  rcases h with ⟨text, hwrite, hraw⟩ | ⟨ha, hclear⟩
  · rcases hbare text hwrite with htext | ⟨rfl, ha⟩
    · refine ⟨some (.text text), ?_, .inr ⟨_, rfl, hread text hwrite⟩⟩
      rw [textField, Environment.text?_of_bare hraw htext]
      rfl
    · -- An empty text is written, which the readers of the environment take for none.
      refine hunset ha fun raw hset => ?_
      obtain rfl := Option.some.inj (hraw.symm.trans hset)
      simp [Text.IsBlankText]
  · exact hunset ha hclear

/-- A text is read back unless it is the default. The default may be empty. -/
theorem gives_text (field : String) {a default : String} (h : Carries env variableName some default a)
    (hdefault : default = "" ∨ Text.Bare default) (ha : a ≠ default → Text.Bare a) :
    Gives (textField env field variableName) field default asText a := by
  refine gives_textField field h ?_ fun text hwrite => ?_
  · rintro _ ⟨⟩
    by_cases heq : a = default
    · rw [heq]
      exact hdefault.symm.imp_right fun hempty => ⟨hempty, rfl⟩
    · exact .inl (ha heq)
  · cases hwrite
    rfl

/-- A text that may be absent is read back. -/
theorem gives_text? (field : String) {a : Option String} (h : Carries env variableName id none a)
    (ha : ∀ text, a = some text → Text.Bare text) :
    Gives (textField env field variableName) field none (optional asText) a := by
  refine gives_textField field h (fun text hwrite => .inl (ha text hwrite)) fun text hwrite => ?_
  obtain rfl : a = some text := hwrite
  rfl

theorem gives_intField (field : String) {n default : Int} {read : Value → Read Int}
    (h : Carries env variableName decimal default n) (hshort : IsShort n)
    (hread : read (.int n) = .ok n) :
    Gives (intField env field variableName) field default read n := by
  rcases h with ⟨text, hwrite, hraw⟩ | ⟨hn, hclear⟩
  · obtain rfl : toString n = text := Option.some.inj hwrite
    have hint : env.int? variableName = .ok (some n) := by
      simp only [Environment.int?, Environment.number?,
        Environment.text?_of_bare hraw (Numeral.bare_toString n), Numeral.readInteger?_toString hshort]
    refine ⟨some (.int n), ?_, .inr ⟨_, rfl, hread⟩⟩
    rw [intField, hint]
    rfl
  · have hint : env.int? variableName = .ok none :=
      number?_of_unset (Environment.text?_eq_none_iff.mpr hclear) _ _
    refine ⟨none, ?_, .inl ⟨rfl, hn⟩⟩
    rw [intField, hint]
    rfl

theorem gives_floatField (field : String) (read : Value → Read α) (hclear : env.IsClear variableName)
    (ha : a = default) : Gives (floatField env field variableName) field default read a := by
  have hfloat : env.float? variableName = .ok none :=
    number?_of_unset (Environment.text?_eq_none_iff.mpr hclear) _ _
  refine ⟨none, ?_, .inl ⟨rfl, ha⟩⟩
  rw [floatField, hfloat]
  rfl

/-- A field that its variable gives is read back. -/
theorem field_of_gives {table : List (String × String)} {results : List (Except Failure FieldValue)}
    {fields : List FieldValue} {result : Except Failure FieldValue} {read : Value → Read α}
    (hsets : List.Forall₂ (SetsIn env) table results) (hnames : (table.map Prod.snd).Nodup)
    (hfields : results.mapM id = .ok fields) (hresult : result ∈ results)
    (h : Gives result field default read a) :
    Checked.field (given fields) field default read = .valid a := by
  obtain ⟨v, rfl, hv⟩ := h
  have hmem : (field, v) ∈ fields := by
    rw [mapM_id_eq_ok_iff.mp hfields] at hresult
    simpa using hresult
  rw [← names_eq (forall₂_sets hsets hfields)] at hnames
  rwa [field_eq_valid_iff, field?_given hnames hmem]

/-! ## Both models -/

theorem storeField_of_gives {store : List FieldValue} {result : Except Failure FieldValue}
    {read : Value → Read α} (hstore : (storeFields env).mapM id = .ok store)
    (hresult : result ∈ storeFields env) (h : Gives result field default read a) :
    Checked.field (given store) field default read = .valid a :=
  field_of_gives (storeFields_setsIn env) (by decide) hstore hresult h

theorem lockField_of_gives {locks : List FieldValue} {result : Except Failure FieldValue}
    {read : Value → Read α} (hlocks : (lockFields env).mapM id = .ok locks)
    (hresult : result ∈ lockFields env) (h : Gives result field default read a) :
    Checked.field (given locks) field default read = .valid a :=
  field_of_gives (lockFields_setsIn env) (by decide) hlocks hresult h

namespace CarriedIn

theorem store_read (h : s.CarriedIn env) (hs : s.Portable) :
    ∃ store, (storeFields env).mapM id = .ok store ∧ s.store.ReadFrom (given store) := by
  have hrange := hs.inRange.store
  have hdefault : Text.Bare StoreSettings.defaults.host := by
    constructor <;> simp [Text.isBlank]
  have host := gives_text "host" h.host (.inr hdefault) hs.host
  have port := gives_intField "port" h.port (hs.integers _ (by simp))
    (intBetween_eq_ok_iff.mpr ⟨rfl, hrange.port⟩)
  have database := gives_intField "db" h.database (hs.integers _ (by simp))
    (intAtLeast_eq_ok_iff.mpr ⟨rfl, hrange.database⟩)
  have password := gives_text? "password" h.password hs.password
  have url := gives_text? "url" h.url hs.url
  have connectTimeout := gives_floatField "connect_timeout_seconds" positiveFloat h.connectTimeout
    hs.connectTimeout
  have socketTimeout := gives_floatField "socket_timeout_seconds" (optional positiveFloat)
    h.socketTimeout hs.socketTimeout
  have attempts := gives_intField "reconnect_attempts" h.reconnectAttempts (hs.integers _ (by simp))
    (intAtLeast_eq_ok_iff.mpr ⟨rfl, hrange.attempts⟩)
  have backoff := gives_floatField "reconnect_backoff_seconds" nonNegativeFloat h.reconnectBackoff
    hs.reconnectBackoff
  have hok : ∀ result ∈ storeFields env, ∃ f, result = .ok f := by
    simp only [storeFields, List.forall_mem_cons]
    exact ⟨host.ok, port.ok, database.ok, password.ok, url.ok, connectTimeout.ok, socketTimeout.ok,
      attempts.ok, backoff.ok, List.forall_mem_nil _⟩
  obtain ⟨store, hstore⟩ := exists_mapM_id_eq_ok hok
  -- No variable sets whether replies are decoded.
  have hdecodes : (given store).field? "decode_responses" = none :=
    given_of_unset (forall₂_sets (storeFields_setsIn env) hstore) (by simp [Unset, storeVariables])
  exact ⟨store, hstore, {
    host := storeField_of_gives hstore (by simp [storeFields]) host
    port := storeField_of_gives hstore (by simp [storeFields]) port
    database := storeField_of_gives hstore (by simp [storeFields]) database
    password := storeField_of_gives hstore (by simp [storeFields]) password
    url := storeField_of_gives hstore (by simp [storeFields]) url
    connectTimeout := storeField_of_gives hstore (by simp [storeFields]) connectTimeout
    socketTimeout := storeField_of_gives hstore (by simp [storeFields]) socketTimeout
    reconnectAttempts := storeField_of_gives hstore (by simp [storeFields]) attempts
    reconnectBackoff := storeField_of_gives hstore (by simp [storeFields]) backoff
    decodesReplies := field_eq_valid_iff.mpr (.inl ⟨hdecodes, hs.decodesReplies⟩) }⟩

theorem locks_read (h : s.CarriedIn env) (hs : s.Portable) :
    ∃ locks, (lockFields env).mapM id = .ok locks ∧ s.locks.ReadFrom (given locks) := by
  have hrange := hs.inRange.locks
  have keyPrefix := gives_text "key_prefix" h.keyPrefix (.inl rfl) hs.keyPrefix
  have defaultTtl := gives_intField "default_ttl_ms" h.defaultTtl (hs.integers _ (by simp))
    (intAbove_eq_ok_iff.mpr ⟨rfl, hrange.ttl⟩)
  have pollInterval := gives_intField "poll_interval_ms" h.pollInterval (hs.integers _ (by simp))
    (intAbove_eq_ok_iff.mpr ⟨rfl, hrange.interval⟩)
  have waitTimeout := gives_intField "wait_timeout_ms" h.waitTimeout (hs.integers _ (by simp))
    (intAtLeast_eq_ok_iff.mpr ⟨rfl, hrange.timeout⟩)
  have maxRetries := gives_intField "max_retries" h.maxRetries (hs.integers _ (by simp))
    (intAtLeast_eq_ok_iff.mpr ⟨rfl, hrange.retries⟩)
  have hok : ∀ result ∈ lockFields env, ∃ f, result = .ok f := by
    simp only [lockFields, List.forall_mem_cons]
    exact ⟨keyPrefix.ok, defaultTtl.ok, pollInterval.ok, waitTimeout.ok, maxRetries.ok,
      List.forall_mem_nil _⟩
  obtain ⟨locks, hlocks⟩ := exists_mapM_id_eq_ok hok
  exact ⟨locks, hlocks, {
    keyPrefix := lockField_of_gives hlocks (by simp [lockFields]) keyPrefix
    defaultTtl := lockField_of_gives hlocks (by simp [lockFields]) defaultTtl
    pollInterval := lockField_of_gives hlocks (by simp [lockFields]) pollInterval
    waitTimeout := lockField_of_gives hlocks (by simp [lockFields]) waitTimeout
    maxRetries := lockField_of_gives hlocks (by simp [lockFields]) maxRetries }⟩

end CarriedIn

/-! ## Return -/

theorem CarriedIn.ofEnvironment (h : s.CarriedIn env) (hs : s.Portable) : ofEnvironment env = .ok s := by
  obtain ⟨store, hstore, hstoreRead⟩ := h.store_read hs
  obtain ⟨locks, hlocks, hlocksRead⟩ := h.locks_read hs
  exact ofEnvironment_eq_ok_iff.mpr ⟨store, locks, hstore, hlocks, hstoreRead, hlocksRead⟩

/-- **Settings survive the trip through the environment.** They come back from the environment to which they
are written, and from every other one that carries them. -/
theorem portable_returns (hs : s.Portable) :
    ofEnvironment s.written = .ok s ∧ ∀ env, s.CarriedIn env → ofEnvironment env = .ok s :=
  ⟨(carriedIn_written s).ofEnvironment hs, fun _ h => h.ofEnvironment hs⟩

/-- Settings with a password that holds a blank, and a lease beyond the numbers of a machine. -/
def longLease : Settings where
  store := { port := 6380, password := some "pass word" }
  locks := { keyPrefix := "app:", defaultTtl := 10 ^ 20, waitTimeout := 0 }

/-- The variables that carry them: a default is written, another is left blank. -/
def longLeaseVariables : Environment := ⟨[
  ("REDIS_PORT", "6380"), ("REDIS_DB", "0"), ("REDIS_PASSWORD", "pass word"), ("REDIS_URL", " "),
  ("REDISCOORD_LOCK_PREFIX", "app:"), ("REDISCOORD_LOCK_TTL_MS", "100000000000000000000"),
  ("REDISCOORD_LOCK_WAIT_MS", "0")]⟩

theorem longLease_portable : longLease.Portable where
  valid := ⟨longLease.dump, validate_dump_iff.mpr
    ⟨⟨by decide, by decide, by decide, by decide, by simp [longLease], by decide⟩,
      ⟨by decide, by decide, by decide, by decide⟩⟩⟩
  host h := absurd rfl h
  password := by
    rintro _ ⟨⟩
    constructor <;> simp [Text.isBlank]
  url := by
    rintro _ ⟨⟩
  keyPrefix _ := by constructor <;> simp [longLease, Text.isBlank]
  integers := by
    simp only [List.forall_mem_cons, IsShort]
    exact ⟨by decide, by decide, by decide, by decide, by decide, by decide, by decide, by simp⟩
  connectTimeout := rfl
  socketTimeout := rfl
  reconnectBackoff := rfl
  decodesReplies := rfl

theorem longLease_carried : longLease.CarriedIn longLeaseVariables := by
  have hunset (name : String) (h : longLeaseVariables.raw? name = none) :
      longLeaseVariables.IsClear name := by
    intro raw hraw
    rw [h] at hraw
    cases hraw
  have hblank : longLeaseVariables.IsClear "REDIS_URL" := by
    rintro _ ⟨⟩
    simp [Text.IsBlankText, Text.isBlank]
  exact {
    host := .inr ⟨rfl, hunset _ rfl⟩
    port := .inl ⟨_, rfl, rfl⟩
    database := .inl ⟨_, rfl, rfl⟩
    password := .inl ⟨_, rfl, rfl⟩
    url := .inr ⟨rfl, hblank⟩
    connectTimeout := hunset _ rfl
    socketTimeout := hunset _ rfl
    reconnectAttempts := .inr ⟨rfl, hunset _ rfl⟩
    reconnectBackoff := hunset _ rfl
    keyPrefix := .inl ⟨_, rfl, rfl⟩
    defaultTtl := .inl ⟨_, rfl, rfl⟩
    pollInterval := .inr ⟨rfl, hunset _ rfl⟩
    waitTimeout := .inl ⟨_, rfl, rfl⟩
    maxRetries := .inr ⟨rfl, hunset _ rfl⟩ }

theorem longLease_returns :
    longLease.Portable ∧ longLease.CarriedIn longLeaseVariables ∧
      ofEnvironment longLease.written = .ok longLease ∧
        ofEnvironment longLeaseVariables = .ok longLease := by
  obtain ⟨hwritten, hcarried⟩ := portable_returns longLease_portable
  exact ⟨longLease_portable, longLease_carried, hwritten, hcarried _ longLease_carried⟩

end Settings
end Leasehold

import Leasehold.Proofs.Settings.Fields
import Leasehold.Settings.Environment
import Mathlib

/-!
# Variables and the fields that they set

- **Tables** (`Settings.storeVariables`, `Settings.lockVariables`): which variable sets which field. A
  variable that is unset gives its field no value (`Settings.Sets`).
- **Collecting** (`Settings.mapM_id_eq_ok_iff`): the fields come together exactly when each variable gives
  one.
- **What is given** (`Settings.present`, `Settings.lookup_present`): entries without a value are left out.
  Under the name of a field stands what its variable sets (`Settings.field?_given`), and nothing if its
  variables are unset (`Settings.given_of_unset`).
-/

namespace Leasehold
namespace Settings

variable {env : Environment} {table : List (String × String)}
  {results : List (Except Failure FieldValue)} {fields : List FieldValue} {name : String}

/-! ## Tables -/

/-- The variables of the store's settings, each with the field that it sets. -/
def storeVariables : List (String × String) := [
  ("REDIS_HOST", "host"), ("REDIS_PORT", "port"), ("REDIS_DB", "db"), ("REDIS_PASSWORD", "password"),
  ("REDIS_URL", "url"), ("REDIS_CONNECT_TIMEOUT", "connect_timeout_seconds"),
  ("REDIS_SOCKET_TIMEOUT", "socket_timeout_seconds"),
  ("REDIS_RECONNECT_ATTEMPTS", "reconnect_attempts"),
  ("REDIS_RECONNECT_BACKOFF", "reconnect_backoff_seconds")]

/-- The variables of lock settings, each with the field that it sets. -/
def lockVariables : List (String × String) := [
  ("REDISCOORD_LOCK_PREFIX", "key_prefix"), ("REDISCOORD_LOCK_TTL_MS", "default_ttl_ms"),
  ("REDISCOORD_LOCK_POLL_MS", "poll_interval_ms"), ("REDISCOORD_LOCK_WAIT_MS", "wait_timeout_ms"),
  ("REDISCOORD_TX_MAX_RETRIES", "max_retries")]

/-- A variable sets a field, and gives it no value where the variable is unset. -/
def Sets (env : Environment) (p : String × String) (f : FieldValue) : Prop :=
  f.1 = p.2 ∧ (env.text? p.1 = none → f.2 = none)

/-- Whatever field a variable gives is the one that it sets. -/
def SetsIn (env : Environment) (p : String × String) (result : Except Failure FieldValue) : Prop :=
  ∀ f, result = .ok f → Sets env p f

theorem setsIn_textField (field name : String) : SetsIn env (name, field) (textField env field name) := by
  rintro f ⟨⟩
  exact ⟨rfl, fun hunset => by simp [hunset]⟩

theorem number?_of_unset {α : Type} (h : env.text? name = none) (requirement : String)
    (read : String → Option α) : env.number? name requirement read = .ok none := by
  simp only [Environment.number?, h]

theorem setsIn_number {α : Type} (field name requirement : String) (read : String → Option α)
    (write : α → Value) :
    SetsIn env (name, field)
      ((env.number? name requirement read).map fun a => (field, a.map write)) := by
  intro f hf
  cases hnumber : env.number? name requirement read with
  | error e =>
    rw [hnumber] at hf
    cases hf
  | ok a =>
    rw [hnumber] at hf
    cases hf
    refine ⟨rfl, fun hunset => ?_⟩
    have hnone := number?_of_unset hunset requirement read
    obtain rfl : a = none := Except.ok.inj (hnumber.symm.trans hnone)
    rfl

theorem setsIn_intField (field name : String) : SetsIn env (name, field) (intField env field name) :=
  setsIn_number field name _ _ _

theorem setsIn_floatField (field name : String) :
    SetsIn env (name, field) (floatField env field name) :=
  setsIn_number field name _ _ _

theorem storeFields_setsIn (env : Environment) :
    List.Forall₂ (SetsIn env) storeVariables (storeFields env) := by
  simp [storeFields, storeVariables, setsIn_textField, setsIn_intField, setsIn_floatField]

theorem lockFields_setsIn (env : Environment) :
    List.Forall₂ (SetsIn env) lockVariables (lockFields env) := by
  simp [lockFields, lockVariables, setsIn_textField, setsIn_intField]

/-! ## Collecting -/

theorem mapM_id_eq_ok_iff : results.mapM id = .ok fields ↔ results = fields.map .ok := by
  induction results generalizing fields with
  | nil => cases fields <;> simp [pure, Except.pure]
  | cons result rest ih =>
    rw [List.mapM_cons]
    cases result with
    | error e => cases fields <;> simp [bind, Except.bind]
    | ok f =>
      cases hrest : rest.mapM id with
      | error e => cases fields <;> simp [bind, Except.bind, ← ih, hrest]
      | ok fs => cases fields <;> simp [bind, Except.bind, pure, Except.pure, ← ih, hrest]

/-- Fields come together if each variable gives one. -/
theorem exists_mapM_id_eq_ok (h : ∀ result ∈ results, ∃ f, result = .ok f) :
    ∃ fields, results.mapM id = .ok fields := by
  have hrange : results ∈ Set.range (List.map (Except.ok (ε := Failure))) := by
    rw [Set.range_list_map]
    intro result hresult
    obtain ⟨f, hf⟩ := h result hresult
    exact ⟨f, hf.symm⟩
  obtain ⟨fields, hfields⟩ := hrange
  exact ⟨fields, mapM_id_eq_ok_iff.mpr hfields.symm⟩

/-- Fields that come together are those that the variables set. -/
theorem forall₂_sets (h : List.Forall₂ (SetsIn env) table results)
    (hfields : results.mapM id = .ok fields) : List.Forall₂ (Sets env) table fields := by
  rw [mapM_id_eq_ok_iff.mp hfields, List.forall₂_map_right_iff] at h
  exact h.imp fun _ f hsets => hsets f rfl

theorem names_eq (h : List.Forall₂ (Sets env) table fields) :
    fields.map Prod.fst = table.map Prod.snd := by
  induction h with
  | nil => rfl
  | cons hsets _ ih => rw [List.map_cons, List.map_cons, hsets.1, ih]

/-! ## What is given -/

section Present

variable {β : Type} {entries : List (String × Option β)}

/-- The entries that have a value. -/
def present (entries : List (String × Option β)) : List (String × β) :=
  entries.filterMap fun e => e.2.map (e.1, ·)

theorem lookup_present_cons (key : String) (v : Option β) (rest : List (String × Option β))
    (name : String) :
    (present ((key, v) :: rest)).lookup name =
      if key = name then v.or ((present rest).lookup name) else (present rest).lookup name := by
  unfold present
  cases v with
  | none => simp
  | some v => simp only [List.filterMap_cons, Option.map_some, lookup_cons_eq_ite, Option.some_or]

/-- Nothing stands under a name to which no entry gives a value. -/
theorem lookup_present_eq_none (h : ∀ v, (name, v) ∈ entries → v = none) :
    (present entries).lookup name = none := by
  induction entries with
  | nil => rfl
  | cons e rest ih =>
    obtain ⟨key, v⟩ := e
    rw [lookup_present_cons, ih fun w hw => h w (List.mem_cons_of_mem _ hw)]
    split
    · rename_i hname
      obtain rfl := h v (hname ▸ List.mem_cons_self)
      rfl
    · rfl

/-- Under the name of an entry stands its value. -/
theorem lookup_present {v : Option β} (hnames : (entries.map Prod.fst).Nodup)
    (h : (name, v) ∈ entries) : (present entries).lookup name = v := by
  induction entries with
  | nil => cases h
  | cons e rest ih =>
    obtain ⟨key, w⟩ := e
    obtain ⟨hfresh, hrest⟩ := List.nodup_cons.mp hnames
    rw [lookup_present_cons]
    rcases List.mem_cons.mp h with heq | hmem
    · cases heq
      have hnone : (present rest).lookup name = none :=
        lookup_present_eq_none fun u hu => absurd (List.mem_map_of_mem hu) hfresh
      rw [if_pos rfl, hnone, Option.or_none]
    · have hname : name ∈ rest.map Prod.fst := List.mem_map_of_mem (f := Prod.fst) hmem
      have hne : key ≠ name := by
        rintro rfl
        exact hfresh hname
      rw [if_neg hne, ih hrest hmem]

end Present

theorem field?_given_eq_lookup (fields : List FieldValue) (name : String) :
    (given fields).field? name = (present fields).lookup name := Value.field?_record _ _

/-- Each field stands under its name. -/
theorem field?_given {v : Option Value} (hnames : (fields.map Prod.fst).Nodup)
    (h : (name, v) ∈ fields) : (given fields).field? name = v :=
  (field?_given_eq_lookup fields name).trans (lookup_present hnames h)

/-- All variables that set a field are unset. -/
def Unset (env : Environment) (table : List (String × String)) (name : String) : Prop :=
  ∀ variableName, (variableName, name) ∈ table → env.text? variableName = none

/-- Nothing stands under the name of a field whose variables are unset. -/
theorem given_of_unset (h : List.Forall₂ (Sets env) table fields) (hunset : Unset env table name) :
    (given fields).field? name = none := by
  rw [field?_given_eq_lookup]
  refine lookup_present_eq_none fun v hv => ?_
  induction h with
  | nil => cases hv
  | @cons p f table fields hsets _ ih =>
    rcases List.mem_cons.mp hv with rfl | hv
    · obtain ⟨variableName, field⟩ := p
      obtain rfl : name = field := hsets.1
      exact hsets.2 (hunset variableName List.mem_cons_self)
    · exact ih (fun u hu => hunset u (List.mem_cons_of_mem _ hu)) hv

end Settings
end Leasehold

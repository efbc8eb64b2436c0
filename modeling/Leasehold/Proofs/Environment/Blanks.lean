import Leasehold.Logger
import Leasehold.Proofs.Text.Blank
import Leasehold.Settings.Environment

/-!
# Blanks in the environment do not count

- **One variable** (`Environment.BlankChange`, `Environment.seen_eq_iff`): readers see the same of a
  variable exactly when blanks put around its value or in its place, or taken away, turn one way to set it
  into the other; nothing if it is unset or blank (`Environment.text?_eq_none_iff`).
- **Readers** (`Environment.SameView`): whatever is read from the environment is read from what readers
  see: settings and their errors, numbers, flags, and the level and the handler of a logger.
- **Environments** (`Environment.blanks_do_not_count`): environments that differ in blanks only give the
  same answers to all of them.
-/

namespace Leasehold
namespace Environment

variable {e e' : Environment}

/-! ## One variable -/

/-- A change of blanks only: they are put around a value, or in the place of none. -/
inductive BlankChange : Option String → Option String → Prop where
  | pad (value : String) {before after : String} (hbefore : Text.IsBlankText before)
      (hafter : Text.IsBlankText after) : BlankChange (some value) (some (before ++ value ++ after))
  | set {blank : String} (hblank : Text.IsBlankText blank) : BlankChange none (some blank)

/-- What readers see of a variable as it was set. -/
def seen (raw : Option String) : Option String := (raw.map Text.trim).filter (!·.isEmpty)

theorem text?_eq_seen (e : Environment) (name : String) : e.text? name = seen (e.raw? name) := by
  unfold text? seen
  cases e.raw? name with
  | none => rfl
  | some raw => by_cases h : (Text.trim raw).isEmpty <;> simp [h, Option.filter]

theorem seen_of_blank {raw : String} (h : Text.IsBlankText raw) : seen (some raw) = none := by
  simp [seen, Text.trim_eq_empty_iff.mpr h]

theorem seen_of_not_blank {raw : String} (h : ¬ Text.IsBlankText raw) :
    seen (some raw) = some (Text.trim raw) := by
  have hne : Text.trim raw ≠ "" := fun hempty => h (Text.trim_eq_empty_iff.mp hempty)
  simp [seen, hne]

/-- A variable is unset, or set to blanks only. -/
def IsClear (e : Environment) (name : String) : Prop :=
  ∀ raw, e.raw? name = some raw → Text.IsBlankText raw

/-- Readers see nothing of a variable exactly when it is clear. -/
theorem text?_eq_none_iff {name : String} : e.text? name = none ↔ e.IsClear name := by
  unfold IsClear
  rw [text?_eq_seen]
  cases e.raw? name with
  | none => simp [seen]
  | some raw =>
    by_cases hblank : Text.IsBlankText raw
    · simp [seen_of_blank hblank, hblank]
    · simp [seen_of_not_blank hblank, hblank]

/-- Readers see a value as it is if no blanks stand at its ends. -/
theorem text?_of_bare {name value : String} (hraw : e.raw? name = some value) (h : Text.Bare value) :
    e.text? name = some value := by
  simp [text?_eq_seen, hraw, seen, h.trim, h.holds]

theorem BlankChange.seen {raw raw' : Option String} (h : BlankChange raw raw') :
    seen raw = seen raw' := by
  cases h with
  | pad value hbefore hafter => simp [Environment.seen, Text.trim_padded hbefore hafter]
  | set hblank => rw [seen_of_blank hblank]; rfl

/-- By changes of blanks a variable comes to be set to what readers see of it. -/
theorem eqvGen_seen (raw : Option String) : Relation.EqvGen BlankChange raw (seen raw) := by
  cases raw with
  | none => exact .refl _
  | some value =>
    by_cases hblank : Text.IsBlankText value
    · rw [seen_of_blank hblank]
      exact .symm _ _ (.rel _ _ (.set hblank))
    · obtain ⟨before, after, hbefore, hafter, hvalue⟩ := Text.trim_split value
      have hpad := BlankChange.pad (Text.trim value) hbefore hafter
      rw [← hvalue] at hpad
      rw [seen_of_not_blank hblank]
      exact .symm _ _ (.rel _ _ hpad)

/-- Readers see the same of a variable exactly when changes of blanks turn one way to set it into the
other. -/
theorem seen_eq_iff {raw raw' : Option String} :
    seen raw = seen raw' ↔ Relation.EqvGen BlankChange raw raw' := by
  constructor
  · intro h
    exact .trans _ _ _ (eqvGen_seen raw) (h ▸ .symm _ _ (eqvGen_seen raw'))
  · intro h
    induction h with
    | rel _ _ change => exact change.seen
    | refl _ => rfl
    | symm _ _ _ ih => exact ih.symm
    | trans _ _ _ _ _ ih₁ ih₂ => exact ih₁.trans ih₂

/-! ## Readers -/

/-- Readers see the same in both environments. -/
def SameView (e e' : Environment) : Prop := ∀ name, e.text? name = e'.text? name

/-- The environments differ in blanks only: around values, and in the place of values. -/
def SameButBlanks (e e' : Environment) : Prop :=
  ∀ name, Relation.EqvGen BlankChange (e.raw? name) (e'.raw? name)

theorem sameButBlanks_iff : SameButBlanks e e' ↔ SameView e e' := by
  simp only [SameButBlanks, SameView, text?_eq_seen, seen_eq_iff]

namespace SameView

variable (h : SameView e e')
include h

theorem flag? (name : String) : e.flag? name = e'.flag? name := by
  unfold Environment.flag?
  rw [h]

theorem number? {α : Type} (name requirement : String) (read : String → Option α) :
    e.number? name requirement read = e'.number? name requirement read := by
  unfold Environment.number?
  rw [h]

theorem int? (name : String) : e.int? name = e'.int? name := h.number? name _ _

theorem float? (name : String) : e.float? name = e'.float? name := h.number? name _ _

theorem ofEnvironment : Settings.ofEnvironment e = Settings.ofEnvironment e' := by
  have htext : Settings.textField e = Settings.textField e' := by
    funext field name
    simp only [Settings.textField, h name]
  have hint : Settings.intField e = Settings.intField e' := by
    funext field name
    simp only [Settings.intField, h.int? name]
  have hfloat : Settings.floatField e = Settings.floatField e' := by
    funext field name
    simp only [Settings.floatField, h.float? name]
  unfold Settings.ofEnvironment Settings.storeFields Settings.lockFields
  rw [htext, hint, hfloat]

theorem configure (name : String) (level : Int) (rich : Option Bool) :
    Logger.configure e name level rich = Logger.configure e' name level rich := by
  have hlevel : Logger.effectiveLevel e level = Logger.effectiveLevel e' level := by
    unfold Logger.effectiveLevel
    rw [h]
  have hrich : Logger.isRich e rich = Logger.isRich e' rich := by
    unfold Logger.isRich
    rw [h.flag?]
  unfold Logger.configure
  rw [hlevel, hrich]

theorem get (r : Registry) (name : String) (level : Int) (rich : Option Bool) :
    r.get e name level rich = r.get e' name level rich := by
  unfold Registry.get
  simp only [h.configure]

theorem getAll (r : Registry) (requests : List Logger.Request) :
    r.getAll e requests = r.getAll e' requests := by
  induction requests generalizing r with
  | nil => rfl
  | cons q rest ih => simp only [Registry.getAll, h.get, ih]

end SameView

/-! ## Environments -/

/-- **Blanks do not count.** Environments that differ in blanks only give the same settings or the same error,
the same values under every name whatever the default, and the same loggers. -/
theorem blanks_do_not_count (h : SameButBlanks e e') :
    Settings.ofEnvironment e = Settings.ofEnvironment e' ∧
      (∀ name default, (e.text? name).or default = (e'.text? name).or default) ∧
      (∀ name default, (e.flag? name).getD default = (e'.flag? name).getD default) ∧
      (∀ name default, (e.int? name).map (·.or default) = (e'.int? name).map (·.or default)) ∧
      (∀ name default, (e.float? name).map (·.or default) = (e'.float? name).map (·.or default)) ∧
      ∀ requests, Registry.empty.getAll e requests = Registry.empty.getAll e' requests := by
  have hview := sameButBlanks_iff.mp h
  exact ⟨hview.ofEnvironment, fun name _ => by rw [hview name], fun name _ => by rw [hview.flag? name],
    fun name _ => by rw [hview.int? name], fun name _ => by rw [hview.float? name],
    hview.getAll Registry.empty⟩

/-- A port that is no number, between blanks of two kinds, and a blank host. -/
def padded : Environment := ⟨[("REDIS_PORT", "\u2003six\x1c"), ("REDIS_HOST", "")]⟩

/-- The same without the blanks, and with others in the place of a level. -/
def unpadded : Environment := ⟨[("REDIS_PORT", "six"), ("REDISCOORD_LOG_LEVEL", " ")]⟩

theorem padded_sameButBlanks : SameButBlanks padded unpadded := by
  intro name
  have hblank : Text.IsBlankText "\u2003" ∧ Text.IsBlankText "\x1c" ∧ Text.IsBlankText "" ∧
      Text.IsBlankText " " := by
    simp [Text.IsBlankText, Text.isBlank]
  obtain ⟨hbefore, hafter, hempty, hspace⟩ := hblank
  by_cases hport : name = "REDIS_PORT"
  · subst hport
    exact .symm _ _ (.rel _ _ (.pad "six" hbefore hafter))
  by_cases hhost : name = "REDIS_HOST"
  · subst hhost
    exact .symm _ _ (.rel _ _ (.set hempty))
  by_cases hlevel : name = "REDISCOORD_LOG_LEVEL"
  · subst hlevel
    exact .rel _ _ (.set hspace)
  · have hpadded : padded.raw? name = none := by simp [raw?, padded, hport, hhost]
    have hunpadded : unpadded.raw? name = none := by simp [raw?, unpadded, hport, hlevel]
    rw [hpadded, hunpadded]
    exact .refl _

theorem padded_fails_alike :
    SameButBlanks padded unpadded ∧
      Settings.ofEnvironment unpadded =
        .error (.plain .value "REDIS_PORT must be an integer, got 'six'") ∧
      Settings.ofEnvironment padded =
        .error (.plain .value "REDIS_PORT must be an integer, got 'six'") := by
  have hfails : Settings.ofEnvironment unpadded =
      .error (.plain .value "REDIS_PORT must be an integer, got 'six'") := by
    have hport : unpadded.int? "REDIS_PORT" =
        .error (.plain .value "REDIS_PORT must be an integer, got 'six'") := by
      rfl
    unfold Settings.ofEnvironment Settings.storeFields Settings.intField
    rw [hport]
    rfl
  exact ⟨padded_sameButBlanks, hfails, (blanks_do_not_count padded_sameButBlanks).1.trans hfails⟩

end Environment
end Leasehold

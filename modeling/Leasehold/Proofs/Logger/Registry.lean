import Leasehold.Logger
import Leasehold.Proofs.Text.Letter

/-!
# Loggers are configured once

- **What the environment says** (`Logger.effectiveLevel_of_names`, `Logger.isRich_iff`): a level that it
  names goes before the one asked for; what is asked of a handler goes before what it says.
- **One request** (`Registry.get_spec`, `Registry.Settled.get`): the registry hands out the logger of the
  name or adds one, and leaves all others as they are.
- **Requests in turn** (`Registry.Settled.getAll`, `Registry.getAll_configures_once`): every logger is as
  the first request for its name left it, whatever was asked for since.
-/

namespace Leasehold
namespace Logger

variable {env : Environment}

/-! ## What the environment says -/

/-- The environment names a level, in letters of any size. -/
def NamesLevel (env : Environment) (level : Int) : Prop :=
  ∃ word name, env.text? "REDISCOORD_LOG_LEVEL" = some word ∧ (name, level) ∈ levels ∧
    Text.toCapital word = Text.toCapital name

/-- A rich handler is what a request asks for, or else what the environment does not deny. -/
def Request.WantsRich (env : Environment) (q : Request) : Prop :=
  q.rich = some true ∨ q.rich = none ∧
    ∀ word, env.text? "REDISCOORD_LOG_RICH" = some word →
      Text.toSmall word ∉ Environment.falseWords

theorem lookup_levels_of_mem :
    ∀ p ∈ levels, levels.lookup (Text.toCapital p.1) = some p.2 := by
  decide

theorem toCapital_of_mem_levels : ∀ p ∈ levels, Text.toCapital p.1 = p.1 := by
  decide

theorem lookup_levels_iff {word : String} {level : Int} :
    levels.lookup (Text.toCapital word) = some level ↔
      ∃ name, (name, level) ∈ levels ∧ Text.toCapital word = Text.toCapital name := by
  constructor
  · intro h
    obtain ⟨before, after, hlevels, -⟩ := List.lookup_eq_some_iff.mp h
    have hmem : (Text.toCapital word, level) ∈ levels := by
      rw [hlevels]
      simp
    have hname : Text.toCapital (Text.toCapital word) = Text.toCapital word :=
      toCapital_of_mem_levels (Text.toCapital word, level) hmem
    exact ⟨Text.toCapital word, hmem, hname.symm⟩
  · rintro ⟨name, hmem, hword⟩
    rw [hword]
    exact lookup_levels_of_mem (name, level) hmem

theorem effectiveLevel_of_names {level : Int} (h : NamesLevel env level) (asked : Int) :
    effectiveLevel env asked = level := by
  obtain ⟨word, name, hword, hmem, hname⟩ := h
  have hlookup := lookup_levels_iff.mpr ⟨name, hmem, hname⟩
  simp [effectiveLevel, hword, hlookup]

theorem effectiveLevel_of_not_names (h : ∀ level, ¬ NamesLevel env level) (asked : Int) :
    effectiveLevel env asked = asked := by
  unfold effectiveLevel
  cases hword : env.text? "REDISCOORD_LOG_LEVEL" with
  | none => rfl
  | some word =>
    cases hlookup : levels.lookup (Text.toCapital word) with
    | none => simp [hlookup]
    | some level =>
      obtain ⟨name, hmem, hname⟩ := lookup_levels_iff.mp hlookup
      exact absurd ⟨word, name, hword, hmem, hname⟩ (h level)

/-- The size of ASCII letters does not matter to the level that a word names. -/
theorem NamesLevel.of_letters {word name : String} {level : Int}
    (hword : env.text? "REDISCOORD_LOG_LEVEL" = some word) (hmem : (name, level) ∈ levels)
    (h : word.toLower = name.toLower) : NamesLevel env level :=
  ⟨word, name, hword, hmem, Text.toCapital_of_toLower h⟩

theorem isRich_iff {q : Request} : isRich env q.rich = true ↔ q.WantsRich env := by
  unfold isRich Request.WantsRich Environment.flag?
  cases q.rich with
  | some b => simp
  | none => cases env.text? "REDISCOORD_LOG_RICH" <;> simp

/-- What a logger is by the first request for it. -/
structure ConfiguredBy (env : Environment) (first : Request) (l : Logger) : Prop where
  name : l.name = fullName first.name
  named : ∀ level, NamesLevel env level → l.level = level
  asked : (∀ level, ¬ NamesLevel env level) → l.level = first.level
  handler : ∃ h, l.handlers = [h] ∧ h.level = l.level ∧ (h.kind = .rich ↔ first.WantsRich env)
  quiet : l.propagates = false

/-- The logger that a request makes if there is none of the name. -/
def ofRequest (env : Environment) (q : Request) : Logger :=
  configure env (fullName q.name) q.level q.rich

theorem configuredBy_ofRequest (env : Environment) (q : Request) :
    (ofRequest env q).ConfiguredBy env q where
  name := rfl
  named level h := effectiveLevel_of_names h q.level
  asked h := effectiveLevel_of_not_names h q.level
  handler := by
    refine ⟨_, rfl, rfl, ?_⟩
    rw [← isRich_iff]
    cases isRich env q.rich <;> simp
  quiet := rfl

end Logger

namespace Registry

open Logger

variable {env : Environment} {r : Registry} {asked : List Logger.Request}

/-! ## One request -/

/-- A request hands out the logger of its name, and adds one only if there is none. -/
theorem get_spec (env : Environment) (r : Registry) (q : Logger.Request) :
    (∃ l ∈ r.loggers, l.name = fullName q.name ∧ r.get env q.name q.level q.rich = (l, r)) ∨
      (∀ l ∈ r.loggers, l.name ≠ fullName q.name) ∧
        r.get env q.name q.level q.rich = (ofRequest env q, ⟨r.loggers ++ [ofRequest env q]⟩) := by
  cases hfind : r.loggers.find? fun l => l.name == fullName q.name with
  | some l =>
    have hname : l.name = fullName q.name := by simpa using List.find?_some hfind
    exact .inl ⟨l, List.mem_of_find?_eq_some hfind, hname, by simp [get, hfind]⟩
  | none =>
    have hnew : ∀ l ∈ r.loggers, l.name ≠ fullName q.name := by
      simpa using List.find?_eq_none.mp hfind
    exact .inr ⟨hnew, by simp [get, hfind, ofRequest]⟩

/-- The first request for a name. -/
def firstFor (asked : List Logger.Request) (name : String) : Option Logger.Request :=
  asked.find? fun q => fullName q.name == name

/-- A registry after requests: one logger for each name that was asked for, as the first request for
the name configured it. -/
structure Settled (env : Environment) (asked : List Logger.Request) (r : Registry) : Prop where
  distinct : (r.loggers.map (·.name)).Nodup
  present : ∀ q ∈ asked, ∃ l ∈ r.loggers, l.name = fullName q.name
  first : ∀ l ∈ r.loggers, ∃ q, firstFor asked l.name = some q ∧ l.ConfiguredBy env q

theorem settled_empty (env : Environment) : Settled env [] empty where
  distinct := List.nodup_nil
  present := by simp
  first := by simp [empty]

/-- Loggers of one name are one logger. -/
theorem Settled.eq_of_name {l l' : Logger} (h : Settled env asked r) (hl : l ∈ r.loggers)
    (hl' : l' ∈ r.loggers) (hname : l.name = l'.name) : l = l' :=
  List.inj_on_of_nodup_map h.distinct hl hl' hname

/-- One more request for a name that is there changes nothing. -/
theorem Settled.again {l : Logger} {q : Logger.Request} (h : Settled env asked r) (hl : l ∈ r.loggers)
    (hname : l.name = fullName q.name) : Settled env (asked ++ [q]) r where
  distinct := h.distinct
  present p hp := by
    rcases List.mem_append.mp hp with hp | hp
    · exact h.present p hp
    · obtain rfl := List.mem_singleton.mp hp
      exact ⟨l, hl, hname⟩
  first l' hl' := by
    obtain ⟨p, hp, hconf⟩ := h.first l' hl'
    exact ⟨p, by simp_all [firstFor, List.find?_append], hconf⟩

/-- A request for a new name adds its logger and leaves the others. -/
theorem Settled.added {q : Logger.Request} (h : Settled env asked r)
    (hnew : ∀ l ∈ r.loggers, l.name ≠ fullName q.name) :
    Settled env (asked ++ [q]) ⟨r.loggers ++ [ofRequest env q]⟩ where
  distinct := by
    rw [List.map_append, List.nodup_append]
    refine ⟨h.distinct, by simp, ?_⟩
    simpa [ofRequest, configure] using hnew
  present p hp := by
    rcases List.mem_append.mp hp with hp | hp
    · obtain ⟨l, hl, hname⟩ := h.present p hp
      exact ⟨l, List.mem_append_left _ hl, hname⟩
    · obtain rfl := List.mem_singleton.mp hp
      exact ⟨_, List.mem_append_right _ List.mem_cons_self, rfl⟩
  first l hl := by
    rcases List.mem_append.mp hl with hl | hl
    · obtain ⟨p, hp, hconf⟩ := h.first l hl
      exact ⟨p, by simp_all [firstFor, List.find?_append], hconf⟩
    · obtain rfl := List.mem_singleton.mp hl
      -- Nobody asked for the name before: there would be a logger of that name.
      have hnone : firstFor asked (fullName q.name) = none := by
        refine List.find?_eq_none.mpr fun p hp => ?_
        obtain ⟨l, hl, hname⟩ := h.present p hp
        simpa [hname] using hnew l hl
      refine ⟨q, ?_, configuredBy_ofRequest env q⟩
      change firstFor (asked ++ [q]) (fullName q.name) = some q
      unfold firstFor at hnone ⊢
      rw [List.find?_append, hnone]
      simp

/-- What a request leaves: a settled registry that holds what it held and the logger handed out. -/
theorem Settled.get (h : Settled env asked r) (q : Logger.Request) :
    ∃ l r', r.get env q.name q.level q.rich = (l, r') ∧ Settled env (asked ++ [q]) r' ∧
      r.loggers <+: r'.loggers ∧ l ∈ r'.loggers ∧ l.name = fullName q.name := by
  rcases get_spec env r q with ⟨l, hl, hname, hget⟩ | ⟨hnew, hget⟩
  · exact ⟨l, r, hget, h.again hl hname, List.prefix_rfl, hl, hname⟩
  · exact ⟨_, _, hget, h.added hnew, List.prefix_append _ _,
      List.mem_append_right _ List.mem_cons_self, rfl⟩

/-! ## Requests in turn -/

/-- What requests leave, by induction on them: each logger handed out is in the registry at the end. -/
theorem Settled.getAll (h : Settled env asked r) (requests : List Logger.Request) :
    ∃ ls r', r.getAll env requests = (ls, r') ∧ Settled env (asked ++ requests) r' ∧
      r.loggers <+: r'.loggers ∧
      List.Forall₂ (fun q l => l ∈ r'.loggers ∧ l.name = fullName q.name) requests ls := by
  induction requests generalizing r asked with
  | nil => exact ⟨[], r, rfl, by simpa using h, List.prefix_rfl, .nil⟩
  | cons q rest ih =>
    obtain ⟨l, r₁, hget, h₁, hkept₁, hl, hname⟩ := h.get q
    obtain ⟨ls, r₂, hrest, h₂, hkept₂, hall⟩ := ih h₁
    have hrun : r.getAll env (q :: rest) = (l :: ls, r₂) := by
      simp [Registry.getAll, hget, hrest]
    exact ⟨l :: ls, r₂, hrun, by simpa using h₂, hkept₁.trans hkept₂,
      .cons ⟨hkept₂.mem hl, hname⟩ hall⟩

/-- Requests of a new registry, each with the logger that it was given. -/
def answered (env : Environment) (requests : List Logger.Request) : List (Logger.Request × Logger) :=
  requests.zip (empty.getAll env requests).1

/-- **Loggers are configured once.** Every request is answered. Two requests are given the same logger, which
is one that the registry holds once, exactly when their full names agree; and at the end that logger is
still what the first request for its name made it. -/
theorem getAll_configures_once (env : Environment) (requests : List Logger.Request) :
    (answered env requests).map Prod.fst = requests ∧
      ((empty.getAll env requests).2.loggers.map (·.name)).Nodup ∧
      ∀ q l, (q, l) ∈ answered env requests →
        l ∈ (empty.getAll env requests).2.loggers ∧
        (∃ first, firstFor requests (fullName q.name) = some first ∧ l.ConfiguredBy env first) ∧
        ∀ q' l', (q', l') ∈ answered env requests →
          (l = l' ↔ fullName q.name = fullName q'.name) := by
  obtain ⟨ls, r, hrun, hsettled, -, hall⟩ := (settled_empty env).getAll requests
  have hanswered : answered env requests = requests.zip ls := by rw [answered, hrun]
  have hgiven : ∀ q l, (q, l) ∈ requests.zip ls → l ∈ r.loggers ∧ l.name = fullName q.name :=
    fun q l => (List.forall₂_iff_zip.mp hall).2
  rw [hanswered, hrun]
  refine ⟨List.map_fst_zip hall.length_eq.le, hsettled.distinct, fun q l hql => ?_⟩
  obtain ⟨hl, hname⟩ := hgiven q l hql
  obtain ⟨first, hfirst, hconf⟩ := hsettled.first l hl
  rw [hname, List.nil_append] at hfirst
  refine ⟨hl, ⟨first, hfirst, hconf⟩, fun q' l' hql' => ?_⟩
  obtain ⟨hl', hname'⟩ := hgiven q' l' hql'
  constructor
  · rintro rfl
    exact hname.symm.trans hname'
  · intro hsame
    exact hsettled.eq_of_name hl hl' (by rw [hname, hname', hsame])

/-- An environment that asks for warnings, with blanks around a word in letters of both sizes. -/
def warning : Environment := ⟨[("REDISCOORD_LOG_LEVEL", " wArN ")]⟩

/-- A request for the logger of jobs. -/
def jobs : Logger.Request := ⟨"jobs", 10, some false⟩

/-- A request for the same logger by its full name, to be configured in another way. -/
def jobsAgain : Logger.Request := ⟨"rediscoord.jobs", 40, some true⟩

/-- Both requests, and one for a child of the logger between them. -/
def jobRequests : List Logger.Request := [jobs, ⟨"jobs.daily", 20, none⟩, jobsAgain]

theorem getAll_jobs :
    ∃ l, (jobs, l) ∈ answered warning jobRequests ∧ (jobsAgain, l) ∈ answered warning jobRequests ∧
      l.ConfiguredBy warning jobs ∧ l.level = 30 := by
  have hfirst : (jobs, ⟨"rediscoord.jobs", 30, [⟨.stream, 30⟩], false⟩) ∈
      answered warning jobRequests := by
    decide +kernel
  have hagain : (jobsAgain, ⟨"rediscoord.jobs", 30, [⟨.stream, 30⟩], false⟩) ∈
      answered warning jobRequests := by
    decide +kernel
  obtain ⟨-, ⟨first, hasked, hconf⟩, -⟩ := (getAll_configures_once warning jobRequests).2.2 _ _ hagain
  have hjobs : firstFor jobRequests (fullName jobsAgain.name) = some jobs := by decide +kernel
  have hnames : NamesLevel warning 30 :=
    .of_letters (show warning.text? "REDISCOORD_LOG_LEVEL" = some "wArN" by decide +kernel)
      (show ("WARN", 30) ∈ levels by decide) (by simp [← String.toList_inj, String.toLower])
  obtain rfl : jobs = first := Option.some.inj (hjobs.symm.trans hasked)
  exact ⟨_, hfirst, hagain, hconf, hconf.named 30 hnames⟩

end Registry
end Leasehold

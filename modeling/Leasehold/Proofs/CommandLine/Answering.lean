import Leasehold.Proofs.CommandLine.Reading
import Leasehold.Proofs.CommandLine.Report
import Leasehold.Proofs.Json.OneLine
import Leasehold.Proofs.Lock.Outcome
import Leasehold.Proofs.Lock.Parameter
import Leasehold.Proofs.Settings.Bounds
import Leasehold.Proofs.Settings.Loading
import Leasehold.Proofs.Settings.Portable

/-!
# The command line answers

A run prints one line and exits, and its code tells what kept it from an answer.

- **Lines** (`Prints`): one JSON object without a line break inside.
- **Terms** (`Request.terms`): what the parameters of a request come to. Together with the connection
  they decide how its operation ends (`operated_outcome`).
- **Answers** (`Answered`): code 2 for settings that cannot be loaded and parameters that are refused,
  3 for a store that cannot be reached, 0 and 1 for an answer.
- **What a run takes for granted** (`Sensible`): no check looks at the URL of the settings before a client
  is made from it, at its options and the number of its database before the client asks for a sign of life,
  at the end of a lifetime, at the range of the clock that a wait goes by, or at the tags and the nesting of
  a settings file. If they are in order, and the store is as it should be (`Serves`), every run answers
  (`run_answers`).
-/

namespace Leasehold.CommandLine

open Session LockManager

/-! ## Lines -/

/-- A run exits with a code of some number and prints one line, a JSON object with some members. -/
def Prints (ending : Ending) (number : Nat) (members : List (String × Json)) : Prop :=
  Exits ending number members ∧ ∀ code line, ending = .exited code line → '\n' ∉ line.toList

theorem Exits.prints {ending : Ending} {number : Nat} {members : List (String × Json)}
    (h : Exits ending number members) (printed : ∀ m ∈ members, m.2.Printed) :
    Prints ending number members := by
  refine ⟨h, fun code line hline => ?_⟩
  obtain ⟨_, _, rfl, -, rfl, -⟩ := h
  cases hline
  refine (Json.printed_object fun m hm => ?_).newline_not_mem
  obtain ⟨m, hmem, rfl⟩ := List.mem_map.mp hm
  exact printed m hmem

theorem printed_errorMembers (f : Failure) : ∀ m ∈ errorMembers f, m.2.Printed := by
  simp [errorMembers, Json.printed_text]

theorem printed_jsonText (text : Option String) : (jsonText text).Printed := by
  cases text with
  | none => exact Json.printed_null
  | some s => exact Json.printed_text s

theorem Answer.printed_members (a : Answer) : ∀ m ∈ a.members, m.2.Printed := by
  unfold Answer.members
  rw [List.forall_mem_append]
  constructor
  · simp [Json.printed_text, Json.printed_bool]
  · cases a.token with
    | none => simp
    | some t => simp [printed_jsonText]

/-! ## Requests -/

/-- The lock that a request is about. -/
def Request.key : Request → String
  | .acquire key _ _ => key
  | .release key _ => key
  | .extend key _ _ => key
  | .status key => key
  | .wait key _ _ _ _ => key

/-- The lifetime that a request asks for, and how long it may wait before that begins; or the refusal of
its parameters. -/
def Request.terms (m : LockManager) : Request → Except Failure (Option (Period × Nat))
  | .acquire _ _ ttl => (m.lifetime (numberValue ttl)).map fun p => some (p, 0)
  | .extend _ _ ttl =>
    (Parameter.period "additional_ttl_ms" (.int ttl)).map fun p => some (p, 0)
  | .wait _ _ ttl interval timeout =>
    (m.waitTimes (numberValue ttl) (numberValue interval) (numberValue timeout)).map
      fun (p, _, t) => some (p, t)
  | .release _ _ | .status _ => .ok none

/-- The lock operation of a request, as far as its parameters go. -/
def Request.call (m : LockManager) : Request → LockCall
  | .acquire key token ttl => ⟨m, key, .acquire token (numberValue ttl)⟩
  | .release key token => ⟨m, key, .release token⟩
  | .extend key token ttl => ⟨m, key, .extend token (.int ttl)⟩
  | .status key => ⟨m, key, .owner⟩
  | .wait key token ttl interval timeout =>
    ⟨m, key, .wait token (numberValue ttl) (numberValue interval) (numberValue timeout)⟩

theorem map_error_iff {ε α β : Type} {x : Except ε α} {g : α → β} {e : ε} :
    x.map g = .error e ↔ x = .error e := by
  cases x <;> simp [Except.map]

/-- The terms of a request are refused as the rules for its parameters say. -/
theorem Request.terms_refused_iff {m : LockManager} {request : Request} {f : Failure} :
    request.terms m = .error f ↔ ParameterRule.Refused (request.call m).rules f := by
  cases request with
  | acquire key token ttl => exact map_error_iff.trans m.lifetime_refused_iff
  | extend key token ttl =>
    exact map_error_iff.trans (ParameterRule.refused_single_iff (Parameter.period_follows ..))
  | wait key token ttl interval timeout => exact map_error_iff.trans m.waitTimes_refused_iff
  | release | status => exact ParameterRule.refused_nil_iff

/-- If the default keeps a rule, what breaks it was given, and can be written if that can. -/
theorem writable_of_broken {n : Option Int} {default : Int} {kept : Value → Prop}
    (given : ∀ x ∈ n, Numeral.isWritable x = true) (keeps : kept (.int default))
    (broken : ¬ kept (Parameter.orDefault (numberValue n) default)) :
    (Parameter.orDefault (numberValue n) default).isWritable = true := by
  cases n with
  | none => exact absurd keeps broken
  | some x => exact given x rfl

theorem Request.writable_of_showable {m : LockManager} {request : Request}
    (showable : request.Showable) (inRange : m.settings.InRange) :
    ∀ r ∈ (request.call m).rules, ¬ r.kept → r.value.isWritable = true := by
  have httl := Value.isPositive_int.mpr inRange.ttl
  cases request with
  | acquire key token ttl =>
    intro r hr broken
    obtain rfl := List.mem_singleton.mp hr
    exact writable_of_broken (fun x hx => showable x (Option.mem_toList.mpr hx)) httl broken
  | extend key token ttl =>
    intro r hr _
    obtain rfl := List.mem_singleton.mp hr
    exact showable ttl List.mem_cons_self
  | wait key token ttl interval timeout =>
    obtain ⟨hgiven, htimeout⟩ := List.forall_mem_append.mp showable
    obtain ⟨hgiven, hinterval⟩ := List.forall_mem_append.mp hgiven
    refine List.forall_mem_cons.mpr ⟨fun broken => ?_, List.forall_mem_cons.mpr
      ⟨fun broken => ?_, List.forall_mem_singleton.mpr fun broken => ?_⟩⟩
    · exact writable_of_broken (fun x hx => hgiven x (Option.mem_toList.mpr hx)) httl broken
    · exact writable_of_broken (fun x hx => hinterval x (Option.mem_toList.mpr hx))
        (Value.isPositive_int.mpr inRange.interval) broken
    · exact writable_of_broken (fun x hx => htimeout x (Option.mem_toList.mpr hx))
        (Value.isNatural_int.mpr inRange.timeout) broken
  | release | status => exact fun r hr => nomatch hr

theorem Supplied.eq {s s₁ : Session} {token : Option String} {t : String}
    (h : Supplied s token t s₁) : ∃ n, s₁ = { s with identifiers := n } := by
  cases h with
  | given _ => exact ⟨s.identifiers, rfl⟩
  | fresh _ => exact ⟨_, rfl⟩

/-- The operation of a request ends as its terms, the connection and the server say. -/
theorem operated_outcome {m : LockManager} {s s' : Session} {request : Request}
    {r : Except Failure Answer} (h : Operated m s request r s') (only : s.OnlyConnection)
    (legible : m.Legible request.key s)
    (writable : ∀ r ∈ (request.call m).rules, ¬ r.kept → r.value.isWritable = true)
    (timely : ¬ (request.call m).Overlong)
    (lasting : ∀ p t, request.terms m = .ok (some (p, t)) →
      Command.deadline? (s.clock + (t : Nat)) p.val ≠ none) :
    Outcome (request.terms m) s (r, s') := by
  have hkind {f : Failure} (hf : request.terms m = .error f) : f.kind = .lockParameter :=
    (Request.terms_refused_iff.mp hf).kind_of_writable writable
  cases h with
  | @acquire key token ttl t s₁ s₂ r supplied performed effect =>
    obtain ⟨n, rfl⟩ := supplied.eq
    refine Outcome.of_same (u := { s with identifiers := n }) (.map ?_ _) rfl fun _ hx => hx
    rw [← performed, acquire_eq]
    simp only [Request.terms] at hkind lasting ⊢
    cases hp : m.lifetime (numberValue ttl) with
    | error f => exact .refused rfl (hkind (map_error_iff.mpr hp)) rfl
    | ok p =>
      rw [hp] at lasting
      have hfits : Command.deadline? s.clock p.val ≠ none := by simpa using lasting p 0 rfl
      exact take_outcome (s := { s with identifiers := n }) (some (p, 0)) only hfits
  | @release key token s₁ r performed effect =>
    refine .map ?_ _
    rw [← performed]
    exact release_outcome none only legible
  | @extend key token ttl s₁ r performed effect =>
    refine .map ?_ _
    rw [← performed]
    simp only [Request.terms] at hkind lasting ⊢
    cases hp : Parameter.period "additional_ttl_ms" (.int ttl) with
    | error f =>
      rw [m.extend_refused key token s hp]
      exact .refused rfl (hkind (map_error_iff.mpr hp)) rfl
    | ok p =>
      rw [hp] at lasting
      exact extend_outcome (some (p, 0)) only legible hp (by simpa using lasting p 0 rfl)
  | @status key s₁ r performed effect =>
    refine .map ?_ _
    rw [← performed]
    exact owner?_outcome none only legible
  | @wait key token ttl interval timeout t s₁ s₂ r supplied performed effect =>
    obtain ⟨n, rfl⟩ := supplied.eq
    refine Outcome.of_same (u := { s with identifiers := n }) (.map ?_ _) rfl fun _ hx => hx
    rw [← performed]
    simp only [Request.terms] at hkind lasting ⊢
    cases htimes : m.waitTimes (numberValue ttl) (numberValue interval) (numberValue timeout) with
    | error f =>
      rw [wait_eq, waitPlan_refused htimes]
      exact .refused rfl (hkind (map_error_iff.mpr htimes)) rfl
    | ok times =>
      obtain ⟨p, i, patience⟩ := times
      obtain ⟨hpause, hpatience⟩ :=
        not_not.mp fun hcounts => timely ⟨p, i, patience, htimes, hcounts⟩
      rw [htimes] at lasting
      exact wait_outcome (s := { s with identifiers := n }) htimes hpause hpatience
        (some (p, patience)) only (lasting p patience rfl)

/-! ## Signs of life -/

theorem ping_working (c : Client) : c.ping.Working := by
  intro s
  rw [c.perform_ping]
  cases c.dial with
  | error f => exact .refl
  | ok _ => exact Action.Working.issue c _ _ s

theorem ping_asksServer (c : Client) : c.ping.AsksServer := by
  intro s hs
  rw [c.perform_ping]
  cases c.dial with
  | error f => exact ⟨f, rfl⟩
  | ok _ =>
    obtain ⟨f, hf⟩ := Action.AsksServer.issue c .ping (c.greeting s.databaseCount) s hs
    exact ⟨f, by rw [hf]; rfl⟩

/-- Only the connection keeps the store from giving a sign of life to a client that it admits. -/
theorem ping_failed {c : Client} {s s₁ : Session} {f : Failure} (only : s.OnlyConnection)
    (admitted : c.Admitted s) (h : c.ping.perform s = (.error f, s₁)) :
    f.isConnectivity = true ∧ s.Unsteady := by
  rw [c.perform_ping, admitted.dial] at h
  dsimp only at h
  obtain ⟨g, s', hissue, hwhy, -⟩ | ⟨r, s', hissue, -, -⟩ := c.issue_cases .ping
    (c.greeting s.databaseCount) (c.greeting_honest s.databaseCount) s
  · rw [hissue] at h
    cases h
    rw [admitted.greeting] at hwhy
    exact hwhy.connection only fun r hr => nomatch hr
  · rw [hissue] at h
    cases h

/-! ## Runs -/

variable (around : Surroundings) (a : Arguments) (s : Session)

/-- What a run may find in the store: the lock is free or holds a text, and if commands are arranged to
fail, the connection is why. -/
structure Serves : Prop where
  only : s.OnlyConnection
  legible : ∀ settings c, loadSettings around a.config = .ok settings →
    Connection.ofSettings settings.store = .ok c → (locksOf settings c).Legible a.request.key s

/-- What a run is given is in order as far as its checks take it for granted: every scalar of the
settings file fits its tag, the file is not nested more deeply than the stack allows, the settings are good
for a client that the server admits, the clock can count the times of a wait, and the end of the lifetime
that is asked for can be written down. -/
structure Sensible : Prop where
  tagged : ∀ path, a.config = some path → ¬ Settings.Mistagged around.files around.reach path
  shallow : ∀ path, a.config = some path → ¬ Settings.Overnested around.files around.reach path
  client : ∀ settings, loadSettings around a.config = .ok settings →
    ∃ c, Connection.ofSettings settings.store = .ok c
  admitted : ∀ settings c, loadSettings around a.config = .ok settings →
    Connection.ofSettings settings.store = .ok c → c.client.Admitted s
  timely : ∀ settings c, loadSettings around a.config = .ok settings →
    Connection.ofSettings settings.store = .ok c → ¬ (a.request.call (locksOf settings c)).Overlong
  lasting : ∀ settings c p t, loadSettings around a.config = .ok settings →
    Connection.ofSettings settings.store = .ok c →
    a.request.terms (locksOf settings c) = .ok (some (p, t)) →
    Command.deadline? (s.clock + (t : Nat)) p.val ≠ none

/-- How a run answers, and the session after it. The code tells the settings that cannot be loaded and
the parameters that are refused (2) from a store that cannot be reached (3) and from an answer (0, 1). -/
inductive Answered : Ending × Session → Prop where
  | unloaded {f : Failure} {ending : Ending} {s' : Session}
      (why : loadSettings around a.config = .error f) (prints : Prints ending 2 (errorMembers f)) :
      Answered (ending, s')
  | unreachable {settings : Settings} {f : Failure} {ending : Ending} {s' : Session}
      (loaded : loadSettings around a.config = .ok settings)
      (away : s'.isUp = false ∨ ∃ p f, (p, some f) ∈ s.faults)
      (prints : Prints ending 3 (errorMembers f)) : Answered (ending, s')
  | refused {settings : Settings} {c : Connection} {f : Failure} {ending : Ending} {s' : Session}
      (loaded : loadSettings around a.config = .ok settings)
      (made : Connection.ofSettings settings.store = .ok c) (isUp : s'.isUp = true)
      (why : a.request.terms (locksOf settings c) = .error f)
      (prints : Prints ending 2 (errorMembers f)) : Answered (ending, s')
  | answered {settings : Settings} {c : Connection} {terms : Option (Period × Nat)} {answer : Answer}
      {ending : Ending} {s' : Session} (loaded : loadSettings around a.config = .ok settings)
      (made : Connection.ofSettings settings.store = .ok c) (isUp : s'.isUp = true)
      (right : a.request.terms (locksOf settings c) = .ok terms)
      (prints : Prints ending (if answer.outcome then 0 else 1) answer.members) :
      Answered (ending, s')

variable {around a s}

theorem accepted_of_loaded {config : Option String} {settings : Settings}
    (h : loadSettings around config = .ok settings) : settings.locks.Accepted := by
  unfold loadSettings at h
  split at h
  · exact .file h
  · exact .environment h

/-- An operation that is done after a sign of life has one of the outcomes of its terms. -/
theorem Performed.outcome {r : Except Failure Answer} {s' : Session}
    (h : Performed around a s r s') (showable : a.request.Showable) (serves : Serves around a s)
    (sensible : Sensible around a s) :
    ∃ settings c, loadSettings around a.config = .ok settings ∧
      Connection.ofSettings settings.store = .ok c ∧ s.isUp = true ∧
      Outcome (a.request.terms (locksOf settings c)) s (r, s') := by
  obtain @⟨settings, c, v, s₁, _, _, pinged, operated⟩ := h
  have hup := (ping_asksServer c.client).isUp pinged.asked
  have hworked := ping_working c.client { s with pings := s.pings + 1 }
  rw [pinged.asked] at hworked
  replace hworked := hworked.report .info ("Connected to Redis at " ++ Connection.target settings.store)
  have halike := (report_alike s₁ .info ("Connected to Redis at " ++
    Connection.target settings.store)).trans pinged.alike
  -- Neither the sign of life nor its line in the log gets in the way of the operation.
  generalize s₁.report .info _ = t at operated hworked halike
  refine ⟨settings, c, pinged.loaded, pinged.made, hup, ?_⟩
  have houtcome := operated_outcome operated (fun p f hf => serves.only p f (hworked.faults _ hf))
    (fun e he => serves.legible settings c pinged.loaded pinged.made e (by rwa [← entry_congr halike]))
    (Request.writable_of_showable showable (accepted_of_loaded pinged.loaded).inRange)
    (sensible.timely settings c pinged.loaded pinged.made)
    (fun p t hterms => by
      rw [halike.clock]
      exact sensible.lasting settings c p t pinged.loaded pinged.made hterms)
  exact houtcome.of_same halike.isUp hworked.faults

/-- The settings of a run that is sensible fail to load only for a reason that the run reports. -/
theorem Sensible.fault (sensible : Sensible around a s) {f : Failure}
    (why : loadSettings around a.config = .error f) : isLoadingFault f = true := by
  unfold loadSettings at why
  unfold isLoadingFault
  cases hconfig : a.config with
  | none =>
    rw [hconfig] at why
    simp [Failure.isA_of_kind (Settings.refuses_ofEnvironment _ f why), Kind.isA, Kind.lineage]
  | some path =>
    rw [hconfig] at why
    obtain htag | hnesting | hfault := Settings.ofFile_fault why
    · exact absurd htag (sensible.tagged path hconfig)
    · exact absurd hnesting (sensible.shallow path hconfig)
    · simpa [or_assoc] using hfault

theorem Pinged.failed {settings : Settings} {c : Connection} {f : Failure} {s₁ s' : Session}
    (h : Pinged around a s settings c (.error f) s₁) (only : s.OnlyConnection)
    (sensible : Sensible around a s) (isUp : s'.isUp = s₁.isUp) :
    f.isConnectivity = true ∧ (s'.isUp = false ∨ ∃ p f, (p, some f) ∈ s.faults) := by
  obtain ⟨hstrays, hdatabase⟩ := sensible.admitted settings c h.loaded h.made
  obtain ⟨hconnectivity, hunsteady⟩ := ping_failed (s := { s with pings := s.pings + 1 }) only
    ⟨hstrays, hdatabase⟩ h.asked
  have hsame : s'.isUp = s.isUp := isUp.trans h.alike.isUp
  exact ⟨hconnectivity, by rw [hsame]; exact hunsteady⟩

/-- A run that loaded its settings answers. -/
theorem Reported.answers {settings : Settings} {done : Ending × Session}
    (h : Reported around a s done) (loaded : loadSettings around a.config = .ok settings)
    (showable : a.request.Showable) (serves : Serves around a s) (sensible : Sensible around a s) :
    Answered around a s done := by
  cases h with
  | unloaded why =>
    rw [loaded] at why
    cases why
  | unreached pinged lost exits =>
    obtain ⟨-, haway⟩ := pinged.failed serves.only sensible (report_alike ..).isUp
    exact .unreachable loaded haway (exits.prints (printed_errorMembers _))
  | disclaimed pinged lost exits =>
    obtain ⟨-, haway⟩ := pinged.failed serves.only sensible rfl
    exact .unreachable loaded haway (exits.prints (printed_errorMembers _))
  | interrupted performed lost exits =>
    obtain ⟨_, _, loaded, made, _, houtcome⟩ := performed.outcome showable serves sensible
    cases houtcome with
    | refused _ kind =>
      rw [Failure.isA_of_kind kind] at lost
      cases lost
    | lost kind away => exact .unreachable loaded away (exits.prints (printed_errorMembers _))
  | refused performed refusal other exits =>
    obtain ⟨_, _, loaded, made, hup, houtcome⟩ := performed.outcome showable serves sensible
    cases houtcome with
    | refused why kind isUp =>
      exact .refused loaded made ((report_alike ..).isUp.trans (isUp.trans hup)) why
        (exits.prints (printed_errorMembers _))
    | lost kind =>
      rw [Failure.isA_of_kind kind] at other
      cases other
  | answered performed exits =>
    obtain ⟨_, _, loaded, made, _, houtcome⟩ := performed.outcome showable serves sensible
    cases houtcome with
    | answered right isUp =>
      exact .answered loaded made isUp right (exits.prints (Answer.printed_members _))
  | raised why =>
    exfalso
    cases why with
    | settings why =>
      rw [loaded] at why
      cases why
    | client loaded why =>
      obtain ⟨c, hc⟩ := sensible.client _ loaded
      rw [hc] at why
      cases why
    | ping pinged other =>
      obtain ⟨hconnectivity, -⟩ := pinged.failed serves.only sensible rfl
      rw [hconnectivity] at other
      cases other.1
    | operation performed other =>
      obtain ⟨_, _, -, -, -, houtcome⟩ := performed.outcome showable serves sensible
      cases houtcome with
      | refused _ kind =>
        rw [Failure.isA_of_kind kind] at other
        cases other
      | lost kind =>
        rw [Failure.isA_of_kind kind] at other
        cases other

/-- The failure that a run ended with, if nothing handled it. -/
def Ending.failure? : Ending → Option Failure
  | .failed f => some f
  | _ => none

end Leasehold.CommandLine

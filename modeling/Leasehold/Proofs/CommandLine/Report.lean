import Leasehold.CommandLine.Run
import Leasehold.Proofs.Connection.Outcome
import Leasehold.Proofs.Json.RoundTrip
import Leasehold.Proofs.Lock.Waiting

/-!
# What a run of the command line tells

The exit code, the line of output and the store tell the same.

- **Lines** (`Exits`): the line of output is one JSON object, which is read back from it.
- **Operations** (`Operated`): the lock operation behind a request, its answer and what it did to the
  store.
- **Runs** (`Reported`): one case for each way in which a run can end, with the session after it. Every
  run is one of them (`run_tells_what_happened`).
-/

namespace Leasehold.CommandLine

open Session Connection

/-! ## Lines -/

/-- A run ended with an exit code of some number, and its line of output is one JSON object with some
members: it is written as that, and read back as that. -/
def Exits (ending : Ending) (number : Nat) (members : List (String × Json)) : Prop :=
  ∃ code line, ending = .exited code line ∧ code.number = number ∧
    line = (jsonObject members).render ∧ Json.parse line = .ok (jsonObject members)

theorem readBack_jsonText (text : Option String) : (jsonText text).ReadBack := by
  cases text with
  | none => exact Json.readBack_null
  | some s => exact Json.readBack_text s

theorem parse_jsonObject {members : List (String × Json)} (h : ∀ m ∈ members, m.2.ReadBack)
    (distinct : (members.map (·.1)).Nodup) :
    Json.parse (jsonObject members).render = .ok (jsonObject members) := by
  refine (Json.readBack_object (fun m hm => ?_) ?_).parse_render
  · obtain ⟨m, hmem, rfl⟩ := List.mem_map.mp hm
    exact ⟨Json.areCharacters_ofString m.1, h m hmem⟩
  · rw [List.map_map]
    have := distinct.map Json.ofString_injective
    rwa [List.map_map] at this

/-- What went wrong, as the member of an object. -/
def errorMembers (f : Failure) : List (String × Json) := [("error", .text f.text)]

theorem exits_failure (code : ExitCode) (f : Failure) :
    Exits (.exited code (failureOutput f)) code.number (errorMembers f) := by
  refine ⟨code, _, rfl, rfl, rfl, parse_jsonObject (fun m hm => ?_) (List.nodup_singleton _)⟩
  obtain rfl := List.mem_singleton.mp hm
  exact Json.readBack_text f.text

/-- An answer as the members of an object. -/
def Answer.members (a : Answer) : List (String × Json) :=
  [("key", .text a.key), (a.question, .bool a.outcome)] ++
    match a.token with
    | some t => [("token", jsonText t)]
    | none => []

theorem Answer.readBack_members (a : Answer) : ∀ m ∈ a.members, m.2.ReadBack := by
  unfold Answer.members
  rw [List.forall_mem_append]
  constructor
  · simp [Json.readBack_text, Json.readBack_bool]
  · cases a.token with
    | none => simp
    | some t => simp [readBack_jsonText]

theorem Answer.distinct_members {a : Answer} (hkey : a.question ≠ "key") (htoken : a.question ≠ "token") :
    (a.members.map (·.1)).Nodup := by
  unfold Answer.members
  cases a.token <;> simp [htoken, hkey.symm]

theorem exits_answer {a : Answer} (hkey : a.question ≠ "key") (htoken : a.question ≠ "token") :
    Exits (.exited (if a.outcome then .done else .notHeld) a.toJson.render)
      (if a.outcome then 0 else 1) a.members := by
  refine ⟨_, _, rfl, ?_, rfl, parse_jsonObject a.readBack_members (a.distinct_members hkey htoken)⟩
  cases a.outcome <;> rfl

/-! ## Operations -/

/-- The token that a request is carried out with: the one that was given, or a new identifier when
there is none or an empty one. -/
inductive Supplied (s : Session) : Option String → String → Session → Prop where
  | given {token : String} (nonempty : token ≠ "") : Supplied s (some token) token s
  | fresh {token : Option String} (lacking : token = none ∨ token = some "") :
      Supplied s token ("00000000-0000-4000-8000-" ++ Action.twelveDigits (s.identifiers + 1))
        { s with identifiers := s.identifiers + 1 }

theorem supplied (token : Option String) (s : Session) :
    ∃ t s', (givenToken token).perform s = (.ok t, s') ∧ Supplied s token t s' := by
  cases token with
  | none => exact ⟨_, _, rfl, .fresh (.inl rfl)⟩
  | some token =>
    by_cases h : token = ""
    · subst h
      exact ⟨_, _, rfl, .fresh (.inr rfl)⟩
    · refine ⟨token, s, ?_, .given h⟩
      show Action.perform (if token.isEmpty then _ else _) s = _
      rw [if_neg (by simpa [String.isEmpty_iff] using h)]
      rfl

/-- The lock operation that a request asks for: what it ended with, as an answer to the request, and the
session after it. It is the manager's operation (`performed`), and what was answered is what happened to
the lock (`effect`); a wait that is answered ends with a try to take the lock. -/
inductive Operated (m : LockManager) (s : Session) :
    Request → Except Failure Answer → Session → Prop where
  | acquire {key : String} {token : Option String} {ttl : Option Int} {t : String} {s₁ s₂ : Session}
      {r : Except Failure Bool} (supplied : Supplied s token t s₁)
      (performed : (m.acquire key (some t) (numberValue ttl)).perform s₁ = (r, s₂))
      (effect : ∀ p, m.lifetime (numberValue ttl) = .ok p → m.Took key t s₁ p (r, s₂)) :
      Operated m s (.acquire key token ttl)
        (r.map fun b => ⟨key, "acquired", b, some (if b then some t else none)⟩) s₂
  | release {key token : String} {s₁ : Session} {r : Except Failure Bool}
      (performed : (m.release key token).perform s = (r, s₁))
      (effect : m.Guarded key token s "release" .delete (m.withoutEntry key s) (r, s₁)) :
      Operated m s (.release key token) (r.map fun b => ⟨key, "released", b, none⟩) s₁
  | extend {key token : String} {ttl : Int} {s₁ : Session} {r : Except Failure Bool}
      (performed : (m.extend key token (.int ttl)).perform s = (r, s₁))
      (effect : ∀ p, Parameter.period "additional_ttl_ms" (.int ttl) = .ok p →
        m.Guarded key token s "extend" (.expire p.val)
          (m.withEntry key s (LockManager.lease token s p)) (r, s₁)) :
      Operated m s (.extend key token ttl) (r.map fun b => ⟨key, "extended", b, none⟩) s₁
  | status {key : String} {s₁ : Session} {r : Except Failure (Option String)}
      (performed : (m.owner? key).perform s = (r, s₁))
      (effect : s₁.Alike s ∧ ∀ owner, r = .ok owner → (m.entry key s = none ∧ owner = none) ∨
        ∃ b t token, m.entry key s = some ⟨.string b, t⟩ ∧ Utf8.decode b = .ok token ∧
          owner = some token) :
      Operated m s (.status key)
        (r.map fun owner => ⟨key, "locked", owner.isSome, some owner⟩) s₁
  | wait {key : String} {token : Option String} {ttl interval timeout : Option Int} {t : String}
      {s₁ s₂ : Session} {r : Except Failure Bool} (supplied : Supplied s token t s₁)
      (performed : (m.wait key (some t) (numberValue ttl) (numberValue interval)
        (numberValue timeout)).perform s₁ = (r, s₂))
      (effect : ∀ b, r = .ok b → ∃ p last, m.lifetime (numberValue ttl) = .ok p ∧
        m.Took key t last p (r, s₂)) :
      Operated m s (.wait key token ttl interval timeout)
        (r.map fun b => ⟨key, "acquired", b, some (if b then some t else none)⟩) s₂

theorem operated (m : LockManager) (request : Request) (s : Session) :
    Operated m s request ((perform m request).perform s).1 ((perform m request).perform s).2 := by
  cases request with
  | acquire key token ttl =>
    obtain ⟨t, s₁, ht, hs⟩ := supplied token s
    unfold perform
    rw [Action.perform_bind, ht]
    dsimp only
    rw [Action.perform_bind_pure]
    refine .acquire hs rfl fun p hp => ?_
    have htook := m.take_spec key t s₁ p
    have heq := m.acquire_eq key s₁ (some t) (numberValue ttl)
    rw [hp] at heq
    rwa [show (m.acquire key (some t) (numberValue ttl)).perform s₁ = _ from heq]
  | release key token =>
    unfold perform
    rw [Action.perform_bind_pure]
    exact .release rfl (m.release_spec key token s)
  | extend key token ttl =>
    unfold perform
    rw [Action.perform_bind_pure]
    exact .extend rfl fun p hp => m.extend_spec key token s hp
  | status key =>
    unfold perform
    rw [Action.perform_bind_pure]
    refine .status rfl ?_
    have hlooked := m.owner?_spec key s
    generalize (m.owner? key).perform s = done at hlooked
    cases hlooked with
    | failed why alike => exact ⟨alike, fun owner h => nomatch h⟩
    | answered answer alike => exact ⟨alike, fun owner h => Except.ok.inj h ▸ answer⟩
  | wait key token ttl interval timeout =>
    obtain ⟨t, s₁, ht, hs⟩ := supplied token s
    unfold perform
    rw [Action.perform_bind, ht]
    dsimp only
    rw [Action.perform_bind_pure]
    exact .wait hs rfl fun b hb => m.wait_took key t hb

theorem exists_of_map {α : Type} {g : α → Answer} {r : Except Failure α} {answer : Answer}
    (h : r.map g = .ok answer) : ∃ x, g x = answer := by
  cases r with
  | error f => cases h
  | ok x => exact ⟨x, Except.ok.inj h⟩

/-- What a request asks is one of four questions. -/
theorem Operated.question {m : LockManager} {s s₁ : Session} {request : Request} {answer : Answer}
    (h : Operated m s request (.ok answer) s₁) :
    answer.question ∈ ["acquired", "released", "extended", "locked"] := by
  generalize hanswer : Except.ok answer = outcome at h
  cases h
  all_goals
    obtain ⟨x, rfl⟩ := exists_of_map hanswer.symm
    simp

/-! ## Endings -/

variable (around : Surroundings) (a : Arguments) (s : Session)

/-- The locks that settings describe, by way of a connection. -/
def locksOf (settings : Settings) (c : Connection) : LockManager where
  client := c.client
  settings := settings.locks
  keyPrefix := settings.locks.keyPrefix

/-- Settings were loaded and a client was made from them, which asked the store for a sign of life:
what it got, and the session then. -/
structure Pinged (settings : Settings) (c : Connection) (sign : Except Failure Value)
    (s₁ : Session) : Prop where
  loaded : loadSettings around a.config = .ok settings
  made : Connection.ofSettings settings.store = .ok c
  asked : c.client.ping.perform { s with pings := s.pings + 1 } = (sign, s₁)
  alike : s₁.Alike s

/-- The store gave a sign of life, and the lock operation for the request was done. -/
inductive Performed : Except Failure Answer → Session → Prop where
  | intro {settings : Settings} {c : Connection} {v : Value} {s₁ s₂ : Session}
      {r : Except Failure Answer} (pinged : Pinged around a s settings c (.ok v) s₁)
      (operated : Operated (locksOf settings c)
        (s₁.report .info ("Connected to Redis at " ++ Connection.target settings.store))
        a.request r s₂) : Performed r s₂

/-- Why a run ends with a failure that nothing handles. -/
inductive Unhandled (f : Failure) : Prop where
  | settings (why : loadSettings around a.config = .error f)
      (other : f.isA .value = false ∧ f.isA .system = false ∧ f.isA .document = false)
  | client {settings : Settings} (loaded : loadSettings around a.config = .ok settings)
      (why : Connection.ofSettings settings.store = .error f)
  | ping {settings : Settings} {c : Connection} {s₁ : Session}
      (pinged : Pinged around a s settings c (.error f) s₁)
      (other : f.isConnectivity = false ∧ f.isA .storeUnavailable = false)
  | operation {s₁ : Session} (performed : Performed around a s (.error f) s₁)
      (other : f.isA .coordination = false)

/-- How a run that understood its arguments ends, and the session after it. -/
inductive Reported : Ending × Session → Prop where
  /-- The settings are at fault, and the store is not contacted. -/
  | unloaded {f : Failure} {ending : Ending} (why : loadSettings around a.config = .error f)
      (fault : f.isA .value = true ∨ f.isA .system = true ∨ f.isA .document = true)
      (exits : Exits ending 2 (errorMembers f)) :
      Reported (ending, s.report .error ("Cannot load settings: " ++ f.text))
  /-- The store gives no sign of life. -/
  | unreached {settings : Settings} {c : Connection} {f : Failure} {s₁ : Session} {ending : Ending}
      (pinged : Pinged around a s settings c (.error f) s₁) (lost : f.isConnectivity = true)
      (exits : Exits ending 3 (errorMembers (f.unavailable "connect" none))) :
      Reported (ending, closed
        (s₁.report .error (Connection.failureLine (Connection.target settings.store) f)))
  /-- What comes instead of a sign of life says already that the store is unavailable. -/
  | disclaimed {settings : Settings} {c : Connection} {f : Failure} {s₁ : Session} {ending : Ending}
      (pinged : Pinged around a s settings c (.error f) s₁) (lost : f.isA .storeUnavailable = true)
      (exits : Exits ending 3 (errorMembers f)) : Reported (ending, s₁)
  /-- The store becomes unavailable during the operation. -/
  | interrupted {f : Failure} {s₁ : Session} {ending : Ending}
      (performed : Performed around a s (.error f) s₁) (lost : f.isA .storeUnavailable = true)
      (exits : Exits ending 3 (errorMembers f)) : Reported (ending, closed s₁)
  /-- The operation is refused. -/
  | refused {f : Failure} {s₁ : Session} {ending : Ending}
      (performed : Performed around a s (.error f) s₁) (refusal : f.isA .coordination = true)
      (other : f.isA .storeUnavailable = false) (exits : Exits ending 2 (errorMembers f)) :
      Reported (ending, closed (s₁.report .error f.text))
  /-- The operation is answered. -/
  | answered {answer : Answer} {s₁ : Session} {ending : Ending}
      (performed : Performed around a s (.ok answer) s₁)
      (exits : Exits ending (if answer.outcome then 0 else 1) answer.members) :
      Reported (ending, closed s₁)
  | raised {f : Failure} {s₁ : Session} (why : Unhandled around a s f) : Reported (.failed f, s₁)

/-! ## Runs -/

variable {around a s} in
/-- A run does what its words were understood as. -/
theorem run_eq {words : List String} (parsed : Arguments.read words = .ok a) :
    run around words s =
      match (runArguments around a).perform s with
      | (.ok ending, s) => (ending, s)
      | (.error f, s) => (.failed f, s) := by
  rcases hdone : (runArguments around a).perform s with ⟨_ | _, _⟩
  all_goals
    unfold run
    rw [parsed]
    dsimp only
    rw [hdone]

theorem pinged {settings : Settings} {c : Connection}
    (loaded : loadSettings around a.config = .ok settings)
    (made : Connection.ofSettings settings.store = .ok c) :
    ∃ sign s₁, c.client.ping.perform { s with pings := s.pings + 1 } = (sign, s₁) ∧
      Pinged around a s settings c sign s₁ := by
  have halike := Connection.ping_alike c.client { s with pings := s.pings + 1 }
  rcases hasked : c.client.ping.perform { s with pings := s.pings + 1 } with ⟨sign, s₁⟩
  rw [hasked] at halike
  exact ⟨sign, s₁, rfl, loaded, made, hasked, halike.trans ⟨⟨rfl, fun _ => rfl⟩, rfl, rfl⟩⟩

variable {around a s}

/-- An operation that was answered is reported by its answer. -/
theorem reported_of_answer {answer : Answer} {s₁ : Session}
    (performed : Performed around a s (.ok answer) s₁) :
    Reported around a s
      (.exited (if answer.outcome then .done else .notHeld) answer.toJson.render, closed s₁) := by
  have hquestion : answer.question ∈ ["acquired", "released", "extended", "locked"] := by
    obtain ⟨_, operated⟩ := performed
    exact operated.question
  exact .answered performed (exits_answer (fun h => absurd hquestion (by rw [h]; decide))
    (fun h => absurd hquestion (by rw [h]; decide)))

/-- An operation that failed is reported by its failure. -/
theorem reported_of_failure {f : Failure} {s₁ : Session}
    (performed : Performed around a s (.error f) s₁) :
    ∃ ending s₂, (endingOf f).perform s₁ = (.ok ending, s₂) ∧
      Reported around a s (ending, closed s₂) := by
  unfold endingOf
  by_cases hlost : f.isA .storeUnavailable = true
  · rw [if_pos hlost]
    exact ⟨_, _, rfl, .interrupted performed hlost (exits_failure .storeError f)⟩
  rw [if_neg hlost]
  by_cases hrefused : f.isA .coordination = true
  · rw [if_pos hrefused]
    exact ⟨_, _, rfl, .refused performed hrefused (by simpa using hlost) (exits_failure .usage f)⟩
  · rw [if_neg hrefused]
    exact ⟨_, _, rfl, .raised (.operation performed (by simpa using hrefused))⟩

/-- Whatever an operation ended with is reported, and the client is closed. -/
theorem reported_of_performed {operation : Action Answer} {s₁ : Session}
    (performed : Performed around a s (operation.perform s₁).1 (operation.perform s₁).2) :
    ∃ ending s₂, (do
        let ending ← try
            let answer ← operation
            pure (Ending.exited (if answer.outcome then .done else .notHeld) answer.toJson.render)
          catch f => endingOf f
        close
        return ending : Action Ending).perform s₁ = (.ok ending, s₂) ∧
      Reported around a s (ending, s₂) := by
  rw [Action.perform_bind, Action.perform_tryCatch, Action.perform_bind_pure]
  generalize operation.perform s₁ = done at performed ⊢
  rcases done with ⟨f | answer, s₂⟩
  · obtain ⟨ending, s₃, hending, hreported⟩ := reported_of_failure performed
    dsimp only [Except.map]
    rw [hending]
    exact ⟨ending, _, rfl, hreported⟩
  · exact ⟨_, _, rfl, reported_of_answer performed⟩

/-- With its settings loaded, a run connects, does what it is asked for, and reports that. -/
theorem reported_of_loaded {settings : Settings} (loaded : loadSettings around a.config = .ok settings) :
    ∃ ending s₁, (runRequest settings a.request).perform s = (.ok ending, s₁) ∧
      Reported around a s (ending, s₁) := by
  unfold runRequest
  rw [Action.perform_bind, Action.perform_caught, perform_connect]
  cases hmade : Connection.ofSettings settings.store with
  | error f =>
    have hf : f.isA .storeUnavailable = false := by
      unfold Failure.isA
      rw [refuses_ofSettings settings.store f hmade]
      rfl
    refine ⟨.failed f, s, ?_, .raised (.client loaded hmade)⟩
    simp only [hf]
    rfl
  | ok c =>
    obtain ⟨sign, s₁, hasked, hpinged⟩ := pinged around a s loaded hmade
    dsimp only
    rw [hasked]
    cases sign with
    | error f =>
      by_cases hlost : f.isConnectivity = true
      · dsimp only
        rw [if_pos hlost]
        exact ⟨_, _, rfl, .unreached hpinged hlost (exits_failure .storeError _)⟩
      dsimp only
      rw [if_neg hlost]
      by_cases hdisclaimed : f.isA .storeUnavailable = true
      · dsimp only
        rw [if_pos hdisclaimed]
        exact ⟨_, _, rfl, .disclaimed hpinged hdisclaimed (exits_failure .storeError f)⟩
      · dsimp only
        rw [if_neg hdisclaimed]
        exact ⟨_, _, rfl, .raised (.ping hpinged ⟨by simpa using hlost, by simpa using hdisclaimed⟩)⟩
    | ok v =>
      exact reported_of_performed (.intro hpinged (operated (locksOf settings c) a.request _))

/-- **The exit code, the line of output and the store agree.** A run that understood its arguments prints
one JSON object and exits, or ends with a failure that nothing handles. Settings that cannot be loaded
give code 2 and leave the store alone. A store that gives no sign of life, or becomes unavailable during
the operation, gives code 3, and an operation that is refused gives code 2; the object then holds an
error only. An operation that is answered gives code 0 or 1 by its one truth value, which the object
holds next to the key. That value, and what happened to the store, are those of the lock operation under
the prefix of the settings. -/
theorem run_tells_what_happened (around : Surroundings) (words : List String) (a : Arguments)
    (parsed : Arguments.read words = .ok a) (s : Session) :
    Reported around a s (run around words s) := by
  rw [run_eq parsed]
  unfold runArguments
  cases hload : loadSettings around a.config with
  | ok settings =>
    obtain ⟨ending, s₁, hrun, hreported⟩ := reported_of_loaded (s := s) hload
    dsimp only
    rw [hrun]
    exact hreported
  | error f =>
    dsimp only
    by_cases hfault : isLoadingFault f = true
    · rw [if_pos hfault]
      refine .unloaded hload ?_ (exits_failure .usage f)
      simpa [isLoadingFault, or_assoc] using hfault
    · rw [if_neg hfault]
      refine .raised (.settings hload ?_)
      simpa [isLoadingFault, and_assoc] using hfault

/-- Settings that name a prefix and the number of a database. -/
def teamWide : Surroundings where
  environment := ⟨[("REDISCOORD_LOCK_PREFIX", " team: "), ("REDIS_DB", "2")]⟩
  files := fun _ => .missing
  reach := 100

/-- A session in which somebody holds a lock of the team's for a while yet. -/
def leased : Session :=
  let lease : Entry := ⟨.string (Utf8.encode "t"), some (Session.epoch + 100)⟩
  (Session.start true).withDatabase 2 (Store.empty.put (Utf8.encode "team:k") lease)

theorem run_prolongs_leased :
    let words := ["extend", "k", "t", "500"]
    let a : Arguments := ⟨none, .extend "k" "t" 500⟩
    let done := run teamWide words leased
    Arguments.read words = .ok a ∧ Reported teamWide a leased done ∧
    done.1 = .exited .done "\x7b\"key\": \"k\", \"extended\": true\x7d" ∧
    (done.2.database 2).find? (Utf8.encode "team:k") =
      some ⟨.string (Utf8.encode "t"), some (Session.epoch + 500)⟩ := by
  intro words a done
  exact ⟨rfl, run_tells_what_happened teamWide words a rfl leased, rfl, by decide +kernel⟩

end Leasehold.CommandLine

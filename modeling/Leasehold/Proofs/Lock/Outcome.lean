import Leasehold.Proofs.Connection.Outcome
import Leasehold.Proofs.Lock.Footprint
import Leasehold.Proofs.Lock.Waiting
import Leasehold.Proofs.Text.Utf8

/-!
# What a lock operation can fail with

When nothing but the connection is arranged to fail, the lock holds a text if anything, and the end of
the lifetime that is asked for can be written down.

- **Reasons** (`Unanswered.connection`, `Script.send_refused`): a question to the server stays without
  an answer because of the connection, unless the server refuses it.
- **Outcomes** (`LockManager.Outcome`): an answer of a server that is up, a parameter that is refused,
  or a connection that failed. Taking, giving back, prolonging, looking and waiting have no others
  (`take_outcome`, `release_outcome`, `extend_outcome`, `owner?_outcome`, `wait_outcome`).
-/

namespace Leasehold

open Session

/-! ## What can fail -/

/-- All failures that are arranged are failures of the connection. -/
def Session.OnlyConnection (s : Session) : Prop :=
  ∀ p f, (p, some f) ∈ s.faults → f.isConnectivity = true

/-- The server is down, or some command is to fail. -/
def Session.Unsteady (s : Session) : Prop := s.isUp = false ∨ ∃ p f, (p, some f) ∈ s.faults

theorem Failure.isConnectivity_during (f : Failure) (handled : Option Failure) :
    (f.during handled).isConnectivity = f.isConnectivity := by
  cases handled <;> rfl

theorem Failure.kind_surfaced {f : Failure} (h : f.isConnectivity = true) (operation : String)
    (key : Option String) : (f.surfaced operation key).kind = .storeUnavailable := by
  rw [surfaced, if_pos h]
  rfl

theorem Unanswered.connection {p : Point} {reply : Except Refusal Reply} {s : Session} {f : Failure}
    (h : Unanswered p reply s f) (only : s.OnlyConnection) (answered : ∀ r, reply ≠ .error r) :
    f.isConnectivity = true ∧ s.Unsteady := by
  cases h with
  | @arranged g fault =>
    have hmem : (p, some g) ∈ s.faults := takeFrom_mem fault
    rw [g.isConnectivity_during]
    exact ⟨only p g hmem, .inr ⟨p, g, hmem⟩⟩
  | down _ isUp =>
    rw [Failure.isConnectivity_during]
    exact ⟨rfl, .inl isUp⟩
  | refused _ _ refusal => exact absurd refusal (answered _)

/-- A deadline that can be written down later can be written down earlier. -/
theorem Command.deadline?_of_later {now later lifetime : Int} (hle : now ≤ later)
    (h : deadline? later lifetime ≠ none) : deadline? now lifetime ≠ none := by
  unfold deadline? at h ⊢
  split at h
  · rename_i hfits
    simp only [Bool.and_eq_true, decide_eq_true_eq] at hfits ⊢
    rw [if_pos ⟨hfits.1, by omega⟩]
    exact Option.some_ne_none _
  · exact absurd rfl h

/-- A `GET` is refused only when the key holds a list. -/
theorem Command.run_get_refused {now : Int} {d : Store} {k : Bytes} {r : Refusal}
    (h : ((Command.get k).run now d).reply = .error r) :
    ∃ items t, d.live now k = some ⟨.list items, t⟩ := by
  simp only [run] at h
  split at h
  · cases h
  · cases h
  · rename_i items t hl
    exact ⟨items, t, hl⟩

/-- A script is refused only when the key holds a list, or when a deadline cannot be written down. -/
theorem Script.run_refused {now : Int} {d : Store} {k token : Bytes} {script : Script} {r : Refusal}
    (h : (script.run now d k token).reply = .error r) :
    (∃ items t, d.live now k = some ⟨.list items, t⟩) ∨
      ∃ ms, script = .expire ms ∧ Command.deadline? now ms = none := by
  unfold run at h
  cases hl : d.live now k with
  | none =>
    rw [hl] at h
    cases h
  | some e =>
    obtain ⟨⟨b⟩ | items, t⟩ := e
    · rw [hl] at h
      dsimp only at h
      split at h
      · cases script with
        | delete => simp [Command.run] at h
        | expire ms =>
          refine .inr ⟨ms, rfl, ?_⟩
          simp only [Command.run, hl] at h
          cases ht : Command.deadline? now ms with
          | none => rfl
          | some t =>
            rw [ht] at h
            cases h
      · cases h
    · exact .inl ⟨items, t, rfl⟩

/-- A deadline that can be written down is no reason not to send a script. -/
theorem Script.send_refused {now : Int} {d : Store} {k token : Bytes} {script : Script} {r : Refusal}
    (h : (script.send now d k token).reply = .error r) :
    (∃ items t, d.live now k = some ⟨.list items, t⟩) ∨
      ∃ ms, script = .expire ms ∧ Command.deadline? now ms = none := by
  cases script with
  | delete => exact run_refused h
  | expire ms =>
    by_cases hdeadline : Command.deadline? now ms = none
    · exact .inr ⟨ms, rfl, hdeadline⟩
    · have hsent : send now d k token (.expire ms) = run now d k token (.expire ms) :=
        Effect.sending_of_writable (Command.isWritable_of_deadline? hdeadline) _
      exact run_refused (hsent ▸ h)

namespace LockManager

variable (m : LockManager) (key token : String) (s : Session)

/-- A lock is free, or holds a text. -/
def Legible : Prop := ∀ e, m.entry key s = some e → ∃ text, e.datum = .string (Utf8.encode text)

/-! ## Outcomes -/

/-- How an operation ends whose parameters come to certain terms. -/
inductive Outcome {τ α : Type} (terms : Except Failure τ) (s : Session) :
    Except Failure α × Session → Prop where
  | answered {t : τ} {a : α} {s' : Session} (right : terms = .ok t) (isUp : s'.isUp = true) :
      Outcome terms s (.ok a, s')
  | refused {f : Failure} {s' : Session} (why : terms = .error f) (kind : f.kind = .lockParameter)
      (isUp : s'.isUp = s.isUp) : Outcome terms s (.error f, s')
  | lost {f : Failure} {s' : Session} (kind : f.kind = .storeUnavailable)
      (away : s'.isUp = false ∨ ∃ p f, (p, some f) ∈ s.faults) : Outcome terms s (.error f, s')

variable {m key token s}

theorem Fails.connection {operation : String} {p : Point} {effect : Int → Store → Effect}
    {f : Failure} (h : m.Fails key s operation p effect f) (only : s.OnlyConnection)
    (answered : ∀ r, (effect s.clock (s.database m.client.database)).reply ≠ .error r) :
    f.kind = .storeUnavailable ∧ s.Unsteady := by
  obtain ⟨g, hg, rfl⟩ := h
  obtain ⟨hconnectivity, hunsteady⟩ := hg.connection only answered
  exact ⟨Failure.kind_surfaced hconnectivity _ _, hunsteady⟩

/-- An action that asks the server has one of these outcomes if only the connection can fail. -/
theorem outcome_of_asking {τ α : Type} {a : Action α} (t : τ) (asks : a.AsksServer)
    (working : a.Working)
    (fails : ∀ f s', a.perform s = (.error f, s') → f.kind = .storeUnavailable ∧ s.Unsteady) :
    Outcome (.ok t) s (a.perform s) := by
  have hup := (working s).isUp
  rcases hdone : a.perform s with ⟨f | x, s'⟩
  all_goals
    rw [hdone] at hup
    dsimp only at hup
  · obtain ⟨hkind, haway⟩ := fails f s' hdone
    exact .lost hkind (by rw [hup]; exact haway)
  · exact .answered rfl (hup.trans (asks.isUp hdone))

theorem Outcome.map {τ α β : Type} {terms : Except Failure τ} {r : Except Failure α} {s' : Session}
    (h : Outcome terms s (r, s')) (g : α → β) : Outcome terms s (r.map g, s') := by
  cases h with
  | answered right isUp => exact .answered right isUp
  | refused why kind isUp => exact .refused why kind isUp
  | lost kind away => exact .lost kind away

/-- The session in which an operation starts counts only for its server and its arranged failures. -/
theorem Outcome.of_same {τ α : Type} {terms : Except Failure τ} {u : Session}
    {done : Except Failure α × Session} (h : Outcome terms u done) (isUp : u.isUp = s.isUp)
    (faults : ∀ x ∈ u.faults, x ∈ s.faults) : Outcome terms s done := by
  cases h with
  | answered right up => exact .answered right up
  | refused why kind up => exact .refused why kind (up.trans isUp)
  | lost kind away => exact .lost kind (away.imp_right fun ⟨p, f, hf⟩ => ⟨p, f, faults _ hf⟩)

/-! ## Operations -/

theorem take_asksServer (m : LockManager) (key token : String) (ttl : Period) :
    (m.take key token ttl).AsksServer :=
  (Action.AsksServer.surfacing (.ask _ _ _ _) _ _).bind _

theorem release_asksServer (m : LockManager) (key token : String) :
    (m.release key token).AsksServer :=
  ((Action.AsksServer.surfacing (.ask _ _ _ _) _ _).bind _).bind _

theorem take_outcome {τ : Type} (t : τ) (only : s.OnlyConnection) {ttl : Period}
    (lasting : Command.deadline? s.clock ttl.val ≠ none) :
    Outcome (.ok t) s ((m.take key token ttl).perform s) := by
  refine outcome_of_asking t (m.take_asksServer key token ttl) (m.take_working key token ttl)
    fun f s' hdone => ?_
  have hspec := m.take_spec key token s ttl
  rw [hdone] at hspec
  cases hspec with
  | failed why alike =>
    exact why.connection only fun r hr =>
      lasting (Command.send_setIfAbsent_refused (by have := ttl.property; omega) hr)

/-- A script is not refused a lock that is legible, unless it writes a deadline that cannot be written
down. -/
theorem script_answered (legible : m.Legible key s) {script : Script}
    (lasting : ∀ ms, script = .expire ms → Command.deadline? s.clock ms ≠ none) (r : Refusal) :
    (Script.send s.clock (s.database m.client.database) (Utf8.encode (m.keyPrefix ++ key))
      (Utf8.encode token) script).reply ≠ .error r := by
  intro hr
  obtain ⟨items, t, hlist⟩ | ⟨ms, hscript, hnone⟩ := Script.send_refused hr
  · obtain ⟨text, htext⟩ := legible _ hlist
    cases htext
  · exact lasting ms hscript hnone

theorem release_outcome {τ : Type} (t : τ) (only : s.OnlyConnection) (legible : m.Legible key s) :
    Outcome (.ok t) s ((m.release key token).perform s) := by
  refine outcome_of_asking t (m.release_asksServer key token) (m.release_working key token)
    fun f s' hdone => ?_
  have hspec := m.release_spec key token s
  rw [hdone] at hspec
  cases hspec with
  | failed why alike => exact why.connection only (script_answered legible (by simp))

theorem extend_outcome {τ : Type} (t : τ) (only : s.OnlyConnection) (legible : m.Legible key s)
    {ttl : Value} {p : Period} (hp : Parameter.period "additional_ttl_ms" ttl = .ok p)
    (lasting : Command.deadline? s.clock p.val ≠ none) :
    Outcome (.ok t) s ((m.extend key token ttl).perform s) := by
  have hasks : (m.extend key token ttl).AsksServer :=
    .after hp (((Action.AsksServer.surfacing (.ask _ _ _ _) _ _).bind _).bind _)
  refine outcome_of_asking t hasks (m.extend_working key token ttl) fun f s' hdone => ?_
  have hspec := m.extend_spec key token s hp
  rw [hdone] at hspec
  cases hspec with
  | failed why alike =>
    refine why.connection only (script_answered legible fun ms hms => ?_)
    cases hms
    exact lasting

theorem owner?_outcome {τ : Type} (t : τ) (only : s.OnlyConnection) (legible : m.Legible key s) :
    Outcome (.ok t) s ((m.owner? key).perform s) := by
  have hasks : (m.owner? key).AsksServer :=
    (Action.AsksServer.surfacing (.ask _ _ _ _) _ _).bind _
  refine outcome_of_asking t hasks (m.owner?_working key) fun f s' hdone => ?_
  have hspec := m.owner?_spec key s
  rw [hdone] at hspec
  cases hspec with
  | failed why alike =>
    obtain hfails | ⟨b, t, e, hentry, hdecode, -⟩ := why
    · refine hfails.connection only fun r hr => ?_
      obtain ⟨items, t, hlist⟩ := Command.run_get_refused hr
      obtain ⟨text, htext⟩ := legible _ hlist
      cases htext
    · obtain ⟨text, htext⟩ := legible _ hentry
      cases htext
      rw [Utf8.decode_encode] at hdecode
      cases hdecode

/-! ## Waiting -/

/-- What holds of the first try, and of the next one after each, holds of all tries. -/
theorem tryAt_forall {P : Session → Prop} {ttl : Period} {instants : List Int} (first : P s)
    (next : ∀ a, P a → ∀ instant ∈ instants,
      P (((m.take key token ttl).perform a).2.passTo instant)) :
    ∀ a ∈ (m.tryAt key token ttl instants s).tries, P a := by
  induction instants generalizing s with
  | nil => simpa [tryAt] using first
  | cons instant later ih =>
    have hnext := next s first instant List.mem_cons_self
    unfold tryAt
    rcases h : (m.take key token ttl).perform s with ⟨f | _ | _, s'⟩
    · simpa using first
    · rw [h] at hnext
      have hrest := ih hnext fun a ha i hi => next a ha i (List.mem_cons_of_mem instant hi)
      simpa using ⟨first, hrest⟩
    · simpa using first

/-- No failure is arranged while tries are made. -/
theorem tries_faults {ttl : Period} {instants : List Int} :
    ∀ a ∈ (m.tryAt key token ttl instants s).tries, ∀ x ∈ a.faults, x ∈ s.faults := by
  refine tryAt_forall (fun _ hx => hx) fun a ha instant _ x hx => ?_
  obtain ⟨_, _, hpass⟩ := passTo_eq ((m.take key token ttl).perform a).2 instant
  rw [hpass] at hx
  exact ha x ((m.take_working key token ttl a).faults x hx)

theorem Outcome.of_later {τ α : Type} {t : τ} {last s' : Session} {done : Except Failure α × Session}
    (h : Outcome (.ok t) last done) (faults : ∀ x ∈ last.faults, x ∈ s.faults)
    (isUp : s'.isUp = done.2.isUp) : Outcome (.ok t) s (done.1, s') := by
  cases h with
  | answered _ up => exact .answered rfl (isUp.trans up)
  | refused why => cases why
  | lost kind away =>
    refine .lost kind (away.imp isUp.trans ?_)
    rintro ⟨p, f, hf⟩
    exact ⟨p, f, faults _ hf⟩

/-- A wait by times that its clock can count. -/
theorem wait_outcome {ttl interval timeout : Value} {p i : Period} {t : Nat}
    (htimes : m.waitTimes ttl interval timeout = .ok (p, i, t)) (pause : Timer.seconds.Counts i.val)
    (patience : Timer.seconds.Counts t) {τ : Type} (x : τ) (only : s.OnlyConnection)
    (lasting : Command.deadline? (s.clock + t) p.val ≠ none) :
    Outcome (.ok x) s ((m.wait key (some token) ttl interval timeout).perform s) := by
  rw [wait_eq, waitPlan_eq htimes pause patience]
  dsimp only [tokenAt, Option.getD_some]
  generalize hinstants : paceInstants s.clock (.ok i) t = instants
  -- Every try comes before the time is up.
  have hclocks : ∀ a ∈ (m.tryAt key token p instants s).tries, a.clock ≤ s.clock + t := by
    refine tryAt_forall (by omega) fun a ha instant hi => ?_
    have hle := paceInstants_le instant (hinstants ▸ hi)
    rw [passTo_clock]
    omega
  obtain ⟨before, last, htries, htake⟩ := @tryAt_last m key token p instants s
  have hlast : last ∈ (m.tryAt key token p instants s).tries := by simp [htries]
  have hfaults := tries_faults last hlast
  have hclock := hclocks last hlast
  have houtcome : Outcome (.ok x) last ((m.take key token p).perform last) :=
    take_outcome x (fun q f hf => only q f (hfaults _ hf)) (Command.deadline?_of_later hclock lasting)
  rw [htake] at houtcome
  generalize m.tryAt key token p instants s = r at houtcome ⊢
  show Outcome _ _ (m.ended key t 0 r)
  obtain ⟨hout, halike⟩ := m.ended_eq key t 0 r
  have hended := houtcome.of_later hfaults halike.isUp
  rw [← hout] at hended
  exact hended

end LockManager

end Leasehold

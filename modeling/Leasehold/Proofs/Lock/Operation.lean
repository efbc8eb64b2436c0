import Leasehold.Lock.Manager
import Leasehold.Proofs.Number.Numeral
import Leasehold.Proofs.Session.Issue

/-!
# What each lock operation does

One statement for each operation, with everything that it can end with. They speak of the entry of
the lock in the session (`LockManager.entry`), and of the session up to what the program keeps for
itself (`Session.Alike`).

- **Taking** (`LockManager.take_spec`): only an absent entry, which then has the token and the
  deadline of now.
- **Giving back and prolonging** (`release_spec`, `extend_spec`): only an entry that holds exactly
  the token.
- **Looking** (`isLocked_spec`, `owner?_spec`).

An operation that fails changes nothing, whatever made it fail (`LockManager.Fails`).
-/

namespace Leasehold

open Session

/-! ## Commands and scripts on one key -/

variable {now : Int} {d : Store} {k : Bytes}

theorem Command.deadline?_eq {lifetime t : Int} (h : deadline? now lifetime = some t) :
    t = now + lifetime := by
  unfold deadline? at h
  split at h
  · exact (Option.some.inj h).symm
  · cases h

/-- A whole number of 64 bits can be written. -/
theorem Command.isWritable_of_fits {n : Int} (h : fits n = true) : Numeral.isWritable n = true := by
  simp only [fits, Bool.and_eq_true, decide_eq_true_eq] at h
  unfold greatest at h
  rw [Numeral.isWritable_iff]
  calc n.natAbs < 10 ^ 19 := by omega
    _ ≤ 10 ^ Numeral.integerDigitLimit := Nat.pow_le_pow_right (by decide) (by decide)

/-- A lifetime that can be added to an instant can be written. -/
theorem Command.isWritable_of_deadline? {lifetime : Int} (h : deadline? now lifetime ≠ none) :
    Numeral.isWritable lifetime = true := by
  unfold deadline? at h
  split at h
  · rename_i hfits
    exact isWritable_of_fits ((Bool.and_eq_true _ _).mp hfits).1
  · exact absurd rfl h

/-- What is answered was sent. -/
theorem Effect.sending_of_ok {n : Int} {e : Effect} {r : Reply} (h : (sending n d e).reply = .ok r) :
    sending n d e = e := by
  unfold sending at h ⊢
  split at h
  · rw [if_pos ‹_›]
  · cases h

theorem Effect.sending_of_writable {n : Int} (h : Numeral.isWritable n = true) (e : Effect) :
    sending n d e = e := if_pos h

/-- A conditional `SET` that is answered finds the key absent and writes it, or finds it present. -/
theorem Command.run_setIfAbsent {v : Bytes} {ms : Int} {r : Reply}
    (h : ((Command.set k v (some ms) .ifAbsent).run now d).reply = .ok r) :
    (d.live now k = none ∧ r = .ok ∧ ((Command.set k v (some ms) .ifAbsent).run now d).store =
      d.put k ⟨.string v, some (now + ms)⟩) ∨
    (d.live now k ≠ none ∧ r = .bulk none ∧
      ((Command.set k v (some ms) .ifAbsent).run now d).store = d) := by
  unfold run at h ⊢
  dsimp only at h ⊢
  split at h
  · cases h
  rename_i hms
  rw [if_neg hms]
  cases ht : deadline? now ms with
  | none => rw [ht] at h; cases h
  | some t =>
    rw [ht] at h
    dsimp only [runSet] at h ⊢
    cases hl : d.live now k with
    | none =>
      rw [hl] at h
      refine .inl ⟨rfl, (Except.ok.inj h).symm, ?_⟩
      rw [deadline?_eq ht]; rfl
    | some e =>
      rw [hl] at h
      exact .inr ⟨Option.some_ne_none e, (Except.ok.inj h).symm, rfl⟩

/-- A conditional `SET` is refused only when its deadline cannot be written down. -/
theorem Command.send_setIfAbsent_refused {v : Bytes} {ms : Int} {r : Refusal} (hms : 0 < ms)
    (h : (Effect.sending ms d ((Command.set k v (some ms) .ifAbsent).run now d)).reply = .error r) :
    deadline? now ms = none := by
  by_contra hdeadline
  rw [Effect.sending_of_writable (isWritable_of_deadline? hdeadline)] at h
  unfold run at h
  dsimp only at h
  rw [if_neg (by omega)] at h
  obtain ⟨t, ht⟩ := Option.ne_none_iff_exists'.mp hdeadline
  rw [ht] at h
  dsimp only [runSet] at h
  split at h <;> cases h

/-- A `GET` that is answered finds the key absent or a byte string. -/
theorem Command.run_get {r : Reply} (h : ((Command.get k).run now d).reply = .ok r) :
    ((Command.get k).run now d).store = d ∧ ((d.live now k = none ∧ r = .bulk none) ∨
      ∃ b t, d.live now k = some ⟨.string b, t⟩ ∧ r = .bulk (some b)) := by
  simp only [run] at h ⊢
  cases hl : d.live now k with
  | none =>
    rw [hl] at h
    exact ⟨rfl, .inl ⟨rfl, (Except.ok.inj h).symm⟩⟩
  | some e =>
    obtain ⟨⟨b⟩ | items, t⟩ := e
    · rw [hl] at h
      exact ⟨rfl, .inr ⟨b, t, rfl, (Except.ok.inj h).symm⟩⟩
    · rw [hl] at h
      cases h

/-- A database after a script that found its token. -/
def Script.applied (now : Int) (d : Store) (k token : Bytes) : Script → Store
  | .delete => d.erase k
  | .expire ms => d.put k ⟨.string token, some (now + ms)⟩

/-- A script that is answered finds its token and does its work, or does not and does nothing. -/
theorem Script.run_ok {token : Bytes} {script : Script} {r : Reply}
    (h : (script.run now d k token).reply = .ok r) :
    (∃ t, d.live now k = some ⟨.string token, t⟩ ∧ r = .integer 1 ∧
      (script.run now d k token).store = script.applied now d k token) ∨
    ((∀ t, d.live now k ≠ some ⟨.string token, t⟩) ∧ r = .integer 0 ∧
      (script.run now d k token).store = d) := by
  unfold run at h ⊢
  cases hl : d.live now k with
  | none =>
    rw [hl] at h
    exact .inr ⟨fun _ e => (nomatch e), (Except.ok.inj h).symm, rfl⟩
  | some e =>
    obtain ⟨⟨b⟩ | items, t⟩ := e
    · rw [hl] at h
      dsimp only at h ⊢
      by_cases hb : b = token
      · subst hb
        rw [if_pos rfl] at h ⊢
        refine .inl ⟨t, rfl, ?_⟩
        cases script with
        | delete =>
          simp only [Command.run, Command.deleteAll, hl] at h ⊢
          exact ⟨(Except.ok.inj h).symm, rfl⟩
        | expire ms =>
          simp only [Command.run, hl] at h ⊢
          cases ht : Command.deadline? now ms with
          | none => rw [ht] at h; cases h
          | some t' =>
            rw [ht] at h
            refine ⟨(Except.ok.inj h).symm, ?_⟩
            rw [Command.deadline?_eq ht]; rfl
      · rw [if_neg hb] at h ⊢
        refine .inr ⟨fun _ e => hb ?_, (Except.ok.inj h).symm, rfl⟩
        injection e with e; injection e with e; injection e
    · rw [hl] at h
      cases h

/-- A script that is answered was sent. -/
theorem Script.send_of_ok {token : Bytes} {script : Script} {r : Reply}
    (h : (script.send now d k token).reply = .ok r) :
    script.send now d k token = script.run now d k token := by
  cases script with
  | delete => rfl
  | expire ms => exact Effect.sending_of_ok h

/-! ## Views of a session -/

namespace LockManager

variable (m : LockManager) (key token : String) (s : Session)

@[simp]
theorem storeKey_eq : m.storeKey key = m.keyPrefix ++ key := rfl

/-- The entry of a lock, if it is there: the one under its key with the manager's prefix in front. -/
def entry : Option Entry :=
  (s.database m.client.database).live s.clock (Utf8.encode (m.keyPrefix ++ key))

/-- The session with a new entry for a lock. -/
def withEntry (e : Entry) : Session :=
  s.withDatabase m.client.database
    ((s.database m.client.database).put (Utf8.encode (m.keyPrefix ++ key)) e)

/-- The session without the entry of a lock. -/
def withoutEntry : Session :=
  s.withDatabase m.client.database
    ((s.database m.client.database).erase (Utf8.encode (m.keyPrefix ++ key)))

/-- The entry of a lock that a token holds for a lifetime from now on. -/
def lease (ttl : Period) : Entry := ⟨.string (Utf8.encode token), some (s.clock + ttl.val)⟩

/-- A token holds a lock. -/
def Holds : Prop := ∃ t, m.entry key s = some ⟨.string (Utf8.encode token), t⟩

/-- The token of a caller, who may leave it to the clock. -/
def tokenAt (token : Option String) (s : Session) : String := token.getD (toString s.clock)

variable {m key s} in
theorem entry_congr {t : Session} (h : s.Alike t) : m.entry key s = m.entry key t := by
  unfold entry
  rw [h.clock, h.database]

variable {s} in
theorem withEntry_congr {t : Session} (h : s.Alike t) (e : Entry) :
    (m.withEntry key s e).Alike (m.withEntry key t e) := by
  unfold withEntry
  rw [h.database]
  exact h.withDatabase _ _

/-! ## Outcomes -/

/-- Why a question that an operation puts to the server about a lock fails. -/
def Fails (operation : String) (p : Point) (effect : Int → Store → Effect) (f : Failure) : Prop :=
  ∃ f', Unanswered p (effect s.clock (s.database m.client.database)).reply s f' ∧
    f = f'.surfaced operation (some (m.keyPrefix ++ key))

/-- The command that takes a lock. -/
def takeCommand (ttl : Period) : Command :=
  .set (Utf8.encode (m.keyPrefix ++ key)) (Utf8.encode token) (some ttl.val) .ifAbsent

/-- What comes of sending it. -/
def takeEffect (ttl : Period) (now : Int) (d : Store) : Effect :=
  .sending ttl.val d ((m.takeCommand key token ttl).run now d)

/-- What trying to take a lock ends with. -/
inductive Took (ttl : Period) : Except Failure Bool × Session → Prop where
  | failed {f : Failure} {s' : Session}
      (why : m.Fails key s "acquire" .set (m.takeEffect key token ttl) f)
      (alike : s'.Alike s) : Took ttl (.error f, s')
  | busy {s' : Session} (present : m.entry key s ≠ none) (alike : s'.Alike s) :
      Took ttl (.ok false, s')
  | taken {s' : Session} (absent : m.entry key s = none)
      (alike : s'.Alike (m.withEntry key s (lease token s ttl))) : Took ttl (.ok true, s')

/-- What a script that only the token's holder may run ends with. -/
inductive Guarded (operation : String) (script : Script) (after : Session) :
    Except Failure Bool × Session → Prop where
  | failed {f : Failure} {s' : Session}
      (why : m.Fails key s operation .script
        (fun now d => script.send now d (Utf8.encode (m.keyPrefix ++ key)) (Utf8.encode token)) f)
      (alike : s'.Alike s) : Guarded operation script after (.error f, s')
  | foreign {s' : Session} (other : ¬ m.Holds key token s) (alike : s'.Alike s) :
      Guarded operation script after (.ok false, s')
  | done {s' : Session} (held : m.Holds key token s) (alike : s'.Alike after) :
      Guarded operation script after (.ok true, s')

/-- What looking ends with: a right answer, or a failure for a reason. -/
inductive Looked {α : Type} (right : α → Prop) (wrong : Failure → Prop) :
    Except Failure α × Session → Prop where
  | failed {f : Failure} {s' : Session} (why : wrong f) (alike : s'.Alike s) :
      Looked right wrong (.error f, s')
  | answered {a : α} {s' : Session} (answer : right a) (alike : s'.Alike s) :
      Looked right wrong (.ok a, s')

/-! ## Operations -/

/-- A question that reaches the server is answered as its effect says, or it fails. -/
theorem asked_cases (operation : String) (p : Point) (name : String)
    (effect : Int → Store → Effect) (honest : ∀ now d, (effect now d).Honest d) :
    (∃ f s', (Action.surfacing operation (some (m.keyPrefix ++ key))
        (m.client.ask p name effect)).perform s = (.error f, s') ∧
      m.Fails key s operation p effect f ∧ s'.Alike s) ∨
    ∃ r s', (Action.surfacing operation (some (m.keyPrefix ++ key))
        (m.client.ask p name effect)).perform s = (m.client.handOn name r, s') ∧
      (effect s.clock (s.database m.client.database)).reply = .ok r ∧
      s'.Alike (s.withDatabase m.client.database
        (effect s.clock (s.database m.client.database)).store) := by
  rw [Action.perform_surfacing, Client.perform_ask]
  obtain ⟨f, s', h, hf, ha⟩ | ⟨r, s', h, hr, ha⟩ := m.client.issue_cases p effect honest s
  · rw [h]; exact .inl ⟨_, s', rfl, ⟨f, hf, rfl⟩, ha⟩
  · rw [h]
    dsimp only
    rw [Client.surfaced_handOn]
    exact .inr ⟨r, s', rfl, hr, ha⟩

theorem take_spec (ttl : Period) : m.Took key token s ttl ((m.take key token ttl).perform s) := by
  unfold take
  simp only [storeKey_eq]
  rw [Action.perform_bind]
  obtain ⟨f, s', h, hf, ha⟩ | ⟨r, s', h, hr, ha⟩ := m.asked_cases key s "acquire" .set "SET"
    (m.takeEffect key token ttl) fun _ _ => (Command.run_honest _).sending _
  · unfold takeEffect takeCommand at h
    rw [h]; exact .failed hf ha
  unfold takeEffect takeCommand at h hr ha
  rw [h]
  rw [Effect.sending_of_ok hr] at ha hr
  obtain ⟨habs, rfl, hst⟩ | ⟨hpres, rfl, hst⟩ := Command.run_setIfAbsent hr
  · rw [Client.handOn_ok]
    dsimp only
    rw [Action.perform_bind, Action.perform_report]
    refine .taken habs ((report_alike ..).trans ?_)
    rw [hst] at ha
    exact ha
  · rw [Client.handOn_refused]
    dsimp only
    rw [Action.perform_bind, Action.perform_report]
    refine .busy hpres ((report_alike ..).trans ?_)
    rw [hst] at ha
    exact ha.trans (withDatabase_alike rfl)

/-- With its parameters in order, an acquisition is one try with the token of the caller. -/
theorem acquire_eq (token : Option String) (ttl : Value) :
    (m.acquire key token ttl).perform s =
      match m.lifetime ttl with
      | .ok ttl => (m.take key (tokenAt token s) ttl).perform s
      | .error f => (.error f, s) := by
  unfold acquire
  rw [Action.perform_bind, Action.perform_ofExcept]
  cases m.lifetime ttl with
  | error f => rfl
  | ok p =>
    dsimp only
    rw [Action.perform_bind]
    cases token with
    | none => rw [tokenOr, defaultToken, Action.perform_of]; rfl
    | some token => rw [tokenOr, Action.perform_pure]; rfl

theorem guarded_spec (operation : String) (script : Script) :
    m.Guarded key token s operation script (s.withDatabase m.client.database
        (script.applied s.clock (s.database m.client.database) (Utf8.encode (m.keyPrefix ++ key))
          (Utf8.encode token)))
      ((m.guarded operation key token script).perform s) := by
  unfold guarded
  simp only [storeKey_eq]
  rw [Action.perform_bind]
  obtain ⟨f, s', h, hf, ha⟩ | ⟨r, s', h, hr, ha⟩ := m.asked_cases key s operation .script "EVAL"
    (fun now d => Script.send now d (Utf8.encode (m.keyPrefix ++ key)) (Utf8.encode token) script)
    fun _ _ => Script.send_honest _ _
  · rw [h]; exact .failed hf ha
  rw [h]
  rw [Script.send_of_ok hr] at ha hr
  obtain ⟨t, hl, rfl, hst⟩ | ⟨hl, rfl, hst⟩ := Script.run_ok hr
  all_goals
    rw [hst] at ha
    rw [Client.handOn_script]
  · exact .done ⟨t, hl⟩ ha
  · exact .foreign (fun ⟨t, h⟩ => hl t h) (ha.trans (withDatabase_alike rfl))

/-- A line in the log at the end of an operation is no part of what it does. -/
theorem Guarded.report {operation : String} {script : Script} {after : Session} {a : Action Bool}
    (h : m.Guarded key token s operation script after (a.perform s)) (message : Bool → String) :
    m.Guarded key token s operation script after ((do
      let b ← a
      Action.report .debug (message b)
      return b : Action Bool).perform s) := by
  rw [Action.perform_bind]
  generalize a.perform s = done at h
  cases h with
  | failed why alike => exact .failed why alike
  | foreign other alike => exact .foreign other ((report_alike ..).trans alike)
  | done held alike => exact .done held ((report_alike ..).trans alike)

theorem release_spec :
    m.Guarded key token s "release" .delete (m.withoutEntry key s)
      ((m.release key token).perform s) :=
  (m.guarded_spec key token s "release" .delete).report ..

theorem extend_spec {ttl : Value} {p : Period}
    (hp : Parameter.period "additional_ttl_ms" ttl = .ok p) :
    m.Guarded key token s "extend" (.expire p.val) (m.withEntry key s (lease token s p))
      ((m.extend key token ttl).perform s) := by
  unfold extend
  rw [Action.perform_bind, Action.perform_ofExcept, hp]
  exact (m.guarded_spec key token s "extend" (.expire p.val)).report ..

/-- A parameter out of order is the end of an extension. -/
theorem extend_refused {ttl : Value} {f : Failure}
    (hp : Parameter.period "additional_ttl_ms" ttl = .error f) :
    (m.extend key token ttl).perform s = (.error f, s) := by
  unfold extend
  rw [Action.perform_bind, Action.perform_ofExcept, hp]

theorem isLocked_spec : Looked s (fun b => b = true ↔ m.entry key s ≠ none)
    (m.Fails key s "is_locked" .count fun now d =>
      Command.run now d (.count [Utf8.encode (m.keyPrefix ++ key)]))
    ((m.isLocked key).perform s) := by
  unfold isLocked
  simp only [storeKey_eq]
  rw [Action.perform_bind]
  obtain ⟨f, s', h, hf, ha⟩ | ⟨r, s', h, hr, ha⟩ := m.asked_cases key s "is_locked" .count "EXISTS"
    (fun now d => Command.run now d (.count [Utf8.encode (m.keyPrefix ++ key)]))
    fun _ _ => Command.run_honest _
  · rw [h]; exact .failed hf ha
  rw [h]
  cases hr
  rw [Client.handOn_count]
  refine .answered ?_ (ha.trans (withDatabase_alike rfl))
  unfold entry
  cases hl : (s.database m.client.database).live s.clock (Utf8.encode (m.keyPrefix ++ key)) with
  | none => simp [hl]
  | some e => simp [hl]

/-- A byte string that is handed on names the token that it carries, whether the client or the manager
reads it. -/
theorem tokenOf?_handOn (c : Client) (b : Bytes) :
    (c.handOn "GET" (.bulk (some b))).bind tokenOf? =
      match Utf8.decode b with
      | .ok t => .ok (some t)
      | .error e => .error (.of (.undecodable e)) := by
  unfold Client.handOn Request.read
  dsimp only [Request.handedOn?, Request.handedOn]
  cases c.decodes with
  | false => rfl
  | true => cases Utf8.decode b <;> rfl

theorem owner?_spec : Looked s
    (fun o => (m.entry key s = none ∧ o = none) ∨
      ∃ b t token, m.entry key s = some ⟨.string b, t⟩ ∧ Utf8.decode b = .ok token ∧ o = some token)
    (fun f =>
      m.Fails key s "current_owner_token" .get
        (fun now d => Command.run now d (.get (Utf8.encode (m.keyPrefix ++ key)))) f ∨
      ∃ b t e, m.entry key s = some ⟨.string b, t⟩ ∧ Utf8.decode b = .error e ∧
        f = .of (.undecodable e))
    ((m.owner? key).perform s) := by
  unfold owner?
  simp only [storeKey_eq]
  obtain ⟨f, s', h, hf, ha⟩ | ⟨r, s', h, hr, ha⟩ := m.asked_cases key s "current_owner_token" .get
    "GET" (fun now d => Command.run now d (.get (Utf8.encode (m.keyPrefix ++ key))))
    fun _ _ => Command.run_honest _
  · rw [Action.perform_bind_ofExcept tokenOf? h]; exact .failed (.inl hf) ha
  rw [Action.perform_bind_ofExcept tokenOf? h]
  obtain ⟨hst, hget⟩ := Command.run_get hr
  rw [hst] at ha
  replace ha := ha.trans (withDatabase_alike rfl)
  obtain ⟨hl, rfl⟩ | ⟨b, t, hl, rfl⟩ := hget
  · exact .answered (.inl ⟨hl, rfl⟩) ha
  · rw [tokenOf?_handOn]
    cases hd : Utf8.decode b with
    | error e => exact .failed (.inr ⟨b, t, e, hl, hd, rfl⟩) ha
    | ok token => exact .answered (.inr ⟨b, t, token, hl, hd, rfl⟩) ha

end LockManager
end Leasehold

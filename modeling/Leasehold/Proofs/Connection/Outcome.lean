import Leasehold.Connection.Health
import Leasehold.Proofs.Session.Issue

/-!
# How connecting ends

- **Signs of life** (`Client.perform_ping`): the first command of a client. Its options and its database
  may be in the way of that (`Client.Admitted`).
- **Settings without a connection** (`Connection.refuses_ofSettings`): whatever keeps a client from
  being made is the fault of a value.
- **Connecting** (`Connection.perform_connect`): a client is handed out once it has got its sign of
  life, and closed when the connection failed. That changes nothing on the server
  (`Connection.ping_alike`).
-/

namespace Leasehold

/-- If both parts of a sequence can only fail with some kind, so can the whole. -/
theorem Failure.kind_of_bind {α β : Type} {k : Kind} {e : Except Failure α}
    {g : α → Except Failure β} (he : ∀ f, e = .error f → f.kind = k)
    (hg : ∀ a f, g a = .error f → f.kind = k) {f : Failure} (h : (e >>= g) = .error f) :
    f.kind = k := by
  cases e with
  | error f' => exact he f (by rw [← Except.error.inj h])
  | ok a => exact hg a f h

open Session

/-! ## Signs of life -/

namespace Client

variable (c : Client) (count : Nat)

theorem greeting_honest (now : Int) (d : Store) : (c.greeting count now d).Honest d :=
  (Command.run_honest _).choosing count c.database

theorem greeting_store {now : Int} {d : Store} : (c.greeting count now d).store = d := by
  unfold greeting Effect.choosing Effect.sending
  split_ifs <;> rfl

/-- Nothing but the connection keeps a client from a server: all of its options are taken, and the server
has its database. -/
structure Admitted (s : Session) : Prop where
  strays : c.strays = []
  database : 0 ≤ c.database ∧ c.database < s.databaseCount

/-- Asking for a sign of life is issuing one command, unless the connection does not take an option. -/
theorem perform_ping (s : Session) :
    c.ping.perform s =
      match c.dial with
      | .error f => (.error f, s)
      | .ok () =>
        (((c.issue .ping (c.greeting s.databaseCount)).perform s).1.map fun _ => .bool true,
          ((c.issue .ping (c.greeting s.databaseCount)).perform s).2) := by
  rw [← Action.perform_bind_pure]
  unfold ping
  rw [Action.perform_bind, Action.perform_ofExcept]
  cases c.dial <;> rfl

variable {c} {s : Session}

theorem Admitted.dial (h : c.Admitted s) : c.dial = .ok () := by
  unfold Client.dial
  rw [h.strays]

theorem Admitted.greeting (h : c.Admitted s) (now : Int) (d : Store) :
    c.greeting s.databaseCount now d = Command.run now d (.ping none) := if_pos h.database

end Client

namespace Connection

/-! ## Settings without a connection -/

/-- Whatever goes wrong is the fault of a value. -/
def Refuses {α : Type} (e : Except Failure α) : Prop := ∀ f, e = .error f → f.kind = .value

section

variable {α β : Type}

theorem refuses_ok (a : α) : Refuses (.ok a : Except Failure α) := fun _ h => nomatch h

theorem refuses_refusal (message : String) :
    Refuses (.error (refusal message) : Except Failure α) :=
  fun _ h => Except.error.inj h ▸ rfl

theorem refuses_mapError {ε : Type} (e : Except ε α) (text : ε → String) :
    Refuses (e.mapError fun x => refusal (text x)) := by
  cases e with
  | error x => exact refuses_refusal _
  | ok a => exact refuses_ok a

theorem Refuses.bind {e : Except Failure α} (h : Refuses e) {g : α → Except Failure β}
    (hg : ∀ a, Refuses (g a)) : Refuses (e >>= g) :=
  fun _ => Failure.kind_of_bind h hg

theorem Refuses.map {e : Except Failure α} (h : Refuses e) (g : α → β) : Refuses (e.map g) := by
  cases e with
  | error f => exact fun f' hf => h f' (by rw [← Except.error.inj hf])
  | ok a => exact refuses_ok _

theorem Refuses.mapM {g : α → Except Failure β} {as : List α} (hg : ∀ a ∈ as, Refuses (g a)) :
    Refuses (as.mapM g) := by
  induction as with
  | nil => exact refuses_ok []
  | cons a as ih =>
    rw [List.mapM_cons]
    have hrest := ih fun b hb => hg b (List.mem_cons_of_mem a hb)
    exact (hg a List.mem_cons_self).bind fun b => hrest.bind fun bs => refuses_ok _

end

theorem refuses_ofUrl (url : String) : Refuses (ofUrl url) := by
  unfold ofUrl
  refine (refuses_mapError _ _).bind fun u => ?_
  refine (Refuses.mapM fun field _ => ?_).bind fun fromQuery => ?_
  · unfold queryOption
    split
    · exact refuses_ok _
    · exact refuses_refusal _
  dsimp only
  split
  · exact refuses_ok _
  · refine .bind ?_ fun address => refuses_ok _
    exact (refuses_mapError _ _).bind fun port => refuses_ok _
  · refine .bind ?_ fun address => refuses_ok _
    exact (refuses_mapError _ _).bind fun port => refuses_ok _
  · exact refuses_refusal _

theorem refuses_ofSettings (settings : StoreSettings) : Refuses (ofSettings settings) := by
  unfold ofSettings
  split
  · refine (refuses_ofUrl _).bind fun made => .bind ?_ fun _ => refuses_ok _
    unfold checkConnections
    split
    · split
      · exact refuses_refusal _
      · exact refuses_ok _
    · exact refuses_ok _
  · exact refuses_ok _

/-! ## Connecting -/

theorem ping_alike (c : Client) (s : Session) : (c.ping.perform s).2.Alike s := by
  rw [c.perform_ping]
  cases c.dial with
  | error f => exact .refl s
  | ok _ =>
    dsimp only
    obtain ⟨f, s', h, -, ha⟩ | ⟨r, s', h, -, ha⟩ := c.issue_cases .ping (c.greeting s.databaseCount)
      (c.greeting_honest s.databaseCount) s
    · rw [h]
      exact ha
    · rw [h]
      exact ha.trans (withDatabase_alike (c.greeting_store s.databaseCount))

/-- A session in which one more client was closed. -/
def closed (s : Session) : Session := { s with closes := s.closes + 1 }

/-- Connecting is making a client and asking for a sign of life. -/
theorem perform_connect (settings : StoreSettings) (ping : Client → Action Value) (s : Session) :
    (connect settings ping).perform s =
      match ofSettings settings with
      | .error f => (.error f, s)
      | .ok c =>
        match (ping c.client).perform { s with pings := s.pings + 1 } with
        | (.ok _, s₁) => (.ok c.client, s₁.report .info ("Connected to Redis at " ++ target settings))
        | (.error f, s₁) =>
          if f.isConnectivity then
            (.error (f.unavailable "connect" none),
              closed (s₁.report .error (failureLine (target settings) f)))
          else (.error f, s₁) := by
  unfold connect
  rw [Action.perform_bind, Action.perform_ofExcept]
  cases ofSettings settings with
  | error f => rfl
  | ok c =>
    dsimp only
    rw [Action.perform_bind, Action.perform_tryCatch, Action.perform_bind_pure, probe,
      Action.perform_of]
    rcases (ping c.client).perform { s with pings := s.pings + 1 } with ⟨f | v, s₁⟩
    · by_cases hf : f.isConnectivity = true
      · simp only [Except.map, hf, if_true]
        rfl
      · simp only [Except.map, hf]
        rfl
    · rfl

end Connection
end Leasehold

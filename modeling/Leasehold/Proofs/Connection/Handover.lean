import Leasehold.Proofs.Connection.Outcome

/-!
# Connecting hands out a client or closes it

A client that is not handed out should not stay open.

- **Counting** (`Action.Uncounted`): asking for a sign of life counts nothing by itself; connecting does
  (`Client.ping_uncounted`).
- **The promise** (`Connection.HandedOver`): a client is handed out open, or something is raised and the
  client is closed once.
- **Connecting** (`Connection.connect_hands_over`) keeps the promise unless the sign of life fails with
  something else than the connection. Then the client stays open (`Connection.connect_leaves_open`).
-/

namespace Leasehold

open Session

/-- An action neither counts as a sign of life nor closes anything. -/
def Action.Uncounted {α : Type} (a : Action α) : Prop :=
  ∀ s, (a.perform s).2.pings = s.pings ∧ (a.perform s).2.closes = s.closes

theorem Action.uncounted_ofExcept {α : Type} (e : Except Failure α) : (ofExcept e).Uncounted :=
  fun _ => ⟨rfl, rfl⟩

theorem Client.issue_uncounted (c : Client) (p : Point) (effect : Int → Store → Effect) :
    (c.issue p effect).Uncounted := by
  intro s
  have hcounts : (s.takeFault p).2.pings = s.pings ∧ (s.takeFault p).2.closes = s.closes := ⟨rfl, rfl⟩
  unfold issue
  rw [Action.perform_bind]
  obtain ⟨f, -, h⟩ | ⟨-, -, h⟩ | ⟨-, -, h⟩ := Action.reach_cases p s
  · rw [h]
    exact hcounts
  · rw [h]
    exact hcounts
  · rw [h]
    dsimp only
    rw [Action.perform_of]
    unfold Session.apply
    dsimp only
    cases (effect (s.takeFault p).2.clock ((s.takeFault p).2.database c.database)).reply <;>
      exact hcounts

theorem Client.ping_uncounted (c : Client) : c.ping.Uncounted := by
  intro s
  rw [c.perform_ping]
  cases c.dial with
  | error f => exact ⟨rfl, rfl⟩
  | ok _ => exact c.issue_uncounted .ping _ s

theorem Session.report_counts (s : Session) (level : Level) (message : String) :
    (s.report level message).pings = s.pings ∧ (s.report level message).closes = s.closes := by
  unfold report
  split <;> exact ⟨rfl, rfl⟩

namespace Connection

/-- What callers expect of connecting: the client, which is open, or a failure and a client that was
closed once. -/
inductive HandedOver (c : Client) (s : Session) : Except Failure Client × Session → Prop where
  | client {t : Session} (untouched : t.closes = s.closes) : HandedOver c s (.ok c, t)
  | failure {f : Failure} {t : Session} (closed : t.closes = s.closes + 1) : HandedOver c s (.error f, t)

/-- How connecting ends, by what the one sign of life that it asks for ends with. -/
inductive Connected (c : Client) (s : Session) :
    Except Failure Value → Except Failure Client × Session → Prop where
  /-- An answer hands out the client, which stays open. -/
  | answered {v : Value} {t : Session} (pings : t.pings = s.pings + 1) (untouched : t.closes = s.closes) :
      Connected c s (.ok v) (.ok c, t)
  /-- A failure of the connection is put in the library's own words, and the client is closed once. -/
  | lost {f : Failure} {t : Session} (lost : f.isConnectivity = true) (pings : t.pings = s.pings + 1)
      (closed : t.closes = s.closes + 1) : Connected c s (.error f)
        (.error ((Failure.of (.storeUnavailable "connect" none (some f.text))).because f), t)
  /-- Any other failure is passed on as it is, and the client stays open. -/
  | escaped {f : Failure} {t : Session} (other : f.isConnectivity = false)
      (pings : t.pings = s.pings + 1) (untouched : t.closes = s.closes) :
      Connected c s (.error f) (.error f, t)

variable {settings : StoreSettings} {c : Connection} {ping : Client → Action Value}

theorem connect_connected (made : ofSettings settings = .ok c)
    (uncounted : (ping c.client).Uncounted) (s : Session) :
    Connected c.client s ((ping c.client).perform { s with pings := s.pings + 1 }).1
      ((connect settings ping).perform s) := by
  obtain ⟨hpings, hcloses⟩ := uncounted { s with pings := s.pings + 1 }
  rw [perform_connect, made]
  dsimp only
  rcases hasked : (ping c.client).perform { s with pings := s.pings + 1 } with ⟨f | v, t⟩
  all_goals
    rw [hasked] at hpings hcloses
    dsimp only
  · split
    · rename_i lost
      have hlog := t.report_counts .error (failureLine (target settings) f)
      exact .lost lost (hlog.1.trans hpings) (congrArg (· + 1) (hlog.2.trans hcloses))
    · rename_i other
      exact .escaped (Bool.eq_false_iff.mpr other) hpings hcloses
  · have hlog := t.report_counts .info ("Connected to Redis at " ++ target settings)
    exact .answered (hlog.1.trans hpings) (hlog.2.trans hcloses)

theorem Connected.pings {c : Client} {s : Session} {asked : Except Failure Value}
    {done : Except Failure Client × Session} (h : Connected c s asked done) :
    done.2.pings = s.pings + 1 := by
  cases h with
  | answered pings => exact pings
  | lost _ pings => exact pings
  | escaped _ pings => exact pings

/-- Callers get what they expect unless the sign of life fails with something else than the
connection. -/
theorem Connected.handedOver_iff {c : Client} {s : Session} {asked : Except Failure Value}
    {done : Except Failure Client × Session} (h : Connected c s asked done) :
    HandedOver c s done ↔ ∀ f, asked = .error f → f.isConnectivity = true := by
  cases h with
  | answered _ untouched => exact iff_of_true (.client untouched) fun _ h => nomatch h
  | lost lost _ closed =>
    refine iff_of_true (.failure closed) fun g h => ?_
    cases h
    exact lost
  | escaped other _ untouched =>
    refine iff_of_false ?_ fun h => ?_
    · rintro (_ | ⟨closed⟩)
      rw [untouched] at closed
      exact absurd closed (Nat.ne_of_lt (Nat.lt_succ_self _))
    · have lost := h _ rfl
      rw [other] at lost
      cases lost

/-- **Connecting hands out a live client or closes it, if the connection is what fails.** Whatever the
sign of life ends with, it is asked for once. Callers get the open client, or a failure and a client that
was closed once, exactly if the sign of life does not fail with something else than the connection; then
that failure is passed on, and the client stays open. -/
theorem connect_hands_over (settings : StoreSettings) (c : Connection) (ping : Client → Action Value)
    (s : Session) (made : ofSettings settings = .ok c) (uncounted : (ping c.client).Uncounted) :
    let asked := (ping c.client).perform { s with pings := s.pings + 1 }
    let done := (connect settings ping).perform s
    done.2.pings = s.pings + 1 ∧ Connected c.client s asked.1 done ∧
      (HandedOver c.client s done ↔ ∀ f, asked.1 = .error f → f.isConnectivity = true) := by
  intro asked done
  have h := connect_connected made uncounted s
  exact ⟨h.pings, h, h.handedOver_iff⟩

/-- A server that is down: the client is closed once. -/
theorem connect_hands_over_down :
    let settings : StoreSettings := { database := 3 }
    let s := { Session.start true with isUp := false }
    let done := (connect settings Client.ping).perform s
    ∃ c, ofSettings settings = .ok c ∧ done.2.pings = 1 ∧ HandedOver c.client s done ∧
      done.1 = .error (Action.unreachable.unavailable "connect" none) := by
  intro settings s done
  obtain ⟨hpings, -, hhanded⟩ :=
    connect_hands_over settings _ Client.ping s rfl (Client.ping_uncounted _)
  refine ⟨_, rfl, hpings, hhanded.mpr fun f hf => ?_, rfl⟩
  obtain rfl : Action.unreachable = f := Except.error.inj hf
  rfl

/-- A server that answers with an error: the client stays open, and nobody has it. -/
theorem connect_leaves_open :
    let noAuth := Failure.plain .response "NOAUTH"
    let settings : StoreSettings := {}
    let s := Session.start true
    let done := (connect settings fun _ => Action.ofExcept (.error noAuth)).perform s
    ∃ c, ofSettings settings = .ok c ∧ done.1 = .error noAuth ∧ done.2.pings = 1 ∧
      done.2.closes = 0 ∧ ¬ HandedOver c.client s done := by
  intro noAuth settings s done
  refine ⟨_, rfl, rfl, rfl, rfl, fun handed => ?_⟩
  have hconnected := @connect_connected settings _ (fun _ => Action.ofExcept (.error noAuth)) rfl
    (Action.uncounted_ofExcept _) s
  have lost := hconnected.handedOver_iff.mp handed noAuth rfl
  cases lost

end Connection
end Leasehold

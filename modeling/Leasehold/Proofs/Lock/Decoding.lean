import Leasehold.Proofs.Lock.Isolation
import Leasehold.Proofs.Lock.Ownership

/-!
# Lock operations do not depend on who reads the replies

A client turns replies into text, or hands on their bytes for others to read. Both give the same answers
and the same failures.

- **Questions** (`Client.ask_handing`): a reply that carries no bytes is the same either way.
- **Operations** (`LockCall.action_handing`, `Handle.enter_handing`, `Handle.exitDuring_handing`): all
  replies are of that sort but the token of an owner, which the manager reads as the client would
  (`LockManager.owner?_handing`).
-/

namespace Leasehold

open Session

variable {α β : Type} (decodes : Bool)

/-- The client, with replies read or not. -/
def Client.handing (c : Client) : Client := { c with decodes }

/-- The manager, with a client that reads replies or does not. -/
def LockManager.handing (m : LockManager) : LockManager := { m with client := m.client.handing decodes }

/-- The handle, with such a manager. -/
def Handle.handing (h : Handle) : Handle := { h with manager := h.manager.handing decodes }

/-- The call, with such a manager. -/
def LockCall.handing (c : LockCall) : LockCall := { c with manager := c.manager.handing decodes }

/-! ## Questions -/

theorem Action.ext_perform {a b : Action α} (h : ∀ s, a.perform s = b.perform s) : a = b := funext h

/-- A question is the same for both clients if they hand on the same for all replies that it can have. -/
theorem Client.ask_handing (c : Client) (p : Point) (name : String) (effect : Int → Store → Effect)
    (honest : ∀ now d, (effect now d).Honest d)
    (same : ∀ now d r, (effect now d).reply = .ok r →
      (c.handing decodes).handOn name r = c.handOn name r) :
    (c.handing decodes).ask p name effect = c.ask p name effect := by
  refine Action.ext_perform fun s => ?_
  rw [perform_ask, perform_ask, show (c.handing decodes).issue p effect = c.issue p effect from rfl]
  obtain ⟨f, s', h, -, -⟩ | ⟨r, s', h, hr, -⟩ := c.issue_cases p effect honest s
  · rw [h]
  · rw [h]
    dsimp only
    rw [same _ _ r hr]

/-- The same goes for what is worked out from the answer, if that is the same for all those replies. -/
theorem Client.ask_bind_handing (c : Client) (operation : String) (key : Option String) (p : Point)
    (name : String) (effect : Int → Store → Effect) (honest : ∀ now d, (effect now d).Honest d)
    (view : Value → Except Failure β)
    (same : ∀ now d r, (effect now d).reply = .ok r →
      ((c.handing decodes).handOn name r).bind view = (c.handOn name r).bind view) :
    (Action.surfacing operation key ((c.handing decodes).ask p name effect) >>= fun v =>
      Action.ofExcept (view v)) =
    (Action.surfacing operation key (c.ask p name effect) >>= fun v => Action.ofExcept (view v)) := by
  refine Action.ext_perform fun s => ?_
  rw [Action.perform_bind_ofExcept view (Action.perform_surfacing ..),
    Action.perform_bind_ofExcept view (Action.perform_surfacing ..), perform_ask, perform_ask,
    show (c.handing decodes).issue p effect = c.issue p effect from rfl]
  obtain ⟨f, s', h, -, -⟩ | ⟨r, s', h, hr, -⟩ := c.issue_cases p effect honest s
  · rw [h]
  · rw [h]
    dsimp only
    rw [surfaced_handOn, surfaced_handOn, same _ _ r hr]

namespace LockManager

variable (m : LockManager) (key token : String)

theorem handing_client : (m.handing decodes).client = m.client.handing decodes := rfl

theorem handing_keyPrefix : (m.handing decodes).keyPrefix = m.keyPrefix := rfl

/-! ## Operations -/

theorem take_handing (ttl : Period) : (m.handing decodes).take key token ttl = m.take key token ttl := by
  have hask := m.client.ask_handing decodes .set "SET"
    (fun now d => .sending ttl.val d (Command.run now d
      (.set (Utf8.encode (m.keyPrefix ++ key)) (Utf8.encode token) (some ttl.val) .ifAbsent)))
    (fun _ _ => (Command.run_honest _).sending _) fun now d r hr => by
      rw [Effect.sending_of_ok hr] at hr
      obtain ⟨-, rfl, -⟩ | ⟨-, rfl, -⟩ := Command.run_setIfAbsent hr
      · rw [Client.handOn_ok, Client.handOn_ok]
      · rw [Client.handOn_refused, Client.handOn_refused]
  unfold take
  simp only [storeKey_eq, handing_client, handing_keyPrefix, hask]

theorem acquire_handing (token : Option String) (ttl : Value) :
    (m.handing decodes).acquire key token ttl = m.acquire key token ttl := by
  unfold acquire
  simp only [take_handing]
  rfl

theorem guarded_handing (operation : String) (script : Script) :
    (m.handing decodes).guarded operation key token script = m.guarded operation key token script := by
  have hask := m.client.ask_handing decodes .script "EVAL"
    (fun now d => Script.send now d (Utf8.encode (m.keyPrefix ++ key)) (Utf8.encode token) script)
    (fun _ _ => Script.send_honest _ _) fun now d r hr => by
      rw [Script.send_of_ok hr] at hr
      obtain ⟨_, -, rfl, -⟩ | ⟨-, rfl, -⟩ := Script.run_ok hr
      · rw [Client.handOn_script, Client.handOn_script]
      · rw [Client.handOn_script, Client.handOn_script]
  unfold guarded
  simp only [storeKey_eq, handing_client, handing_keyPrefix, hask]

theorem release_handing : (m.handing decodes).release key token = m.release key token := by
  unfold release
  rw [guarded_handing]
  rfl

theorem extend_handing (ttl : Value) :
    (m.handing decodes).extend key token ttl = m.extend key token ttl := by
  unfold extend
  simp only [guarded_handing]
  rfl

theorem isLocked_handing : (m.handing decodes).isLocked key = m.isLocked key := by
  have hask := m.client.ask_handing decodes .count "EXISTS"
    (fun now d => Command.run now d (.count [Utf8.encode (m.keyPrefix ++ key)]))
    (fun _ _ => Command.run_honest _) fun now d r hr => by
      cases hr
      rw [Client.handOn_count, Client.handOn_count]
  unfold isLocked
  simp only [storeKey_eq, handing_client, handing_keyPrefix, hask]

/-- The manager reads a token as a client does that reads replies. -/
theorem owner?_handing : (m.handing decodes).owner? key = m.owner? key := by
  unfold owner?
  simp only [storeKey_eq, handing_client, handing_keyPrefix]
  refine m.client.ask_bind_handing decodes _ _ .get "GET" _ (fun _ _ => Command.run_honest _) tokenOf?
    fun now d r hr => ?_
  obtain ⟨-, rfl⟩ | ⟨b, t, -, rfl⟩ := (Command.run_get hr).2
  · rw [Client.handOn_absent, Client.handOn_absent]
  · rw [tokenOf?_handOn, tokenOf?_handOn]

theorem poll_handing (ttl : Period) (pace : Except Failure Period) (timeout tried remaining : Nat) :
    (m.handing decodes).poll key token ttl pace timeout tried remaining =
      m.poll key token ttl pace timeout tried remaining := by
  induction remaining using Nat.strongRecOn generalizing tried with
  | ind remaining ih =>
    rw [poll.eq_def, poll.eq_def m, take_handing]
    cases remaining with
    | zero => rfl
    | succ left =>
      refine congrArg (m.take key token ttl >>= ·) (funext fun taken => ?_)
      cases taken with
      | true => rfl
      | false =>
        refine congrArg (Action.ofExcept pace >>= ·) (funext fun interval => ?_)
        have hpos := interval.property
        dsimp only
        rw [ih _ (by omega)]

theorem wait_handing (token : Option String) (ttl interval timeout : Value) :
    (m.handing decodes).wait key token ttl interval timeout = m.wait key token ttl interval timeout := by
  unfold wait waitBy
  simp only [poll_handing]
  rfl

end LockManager

theorem LockCall.action_handing (c : LockCall) : (c.handing decodes).action = c.action := by
  obtain ⟨m, key, operation⟩ := c
  unfold action handing
  cases operation with
  | acquire token ttl => dsimp only; rw [m.acquire_handing]
  | release token => dsimp only; rw [m.release_handing]
  | extend token ttl => dsimp only; rw [m.extend_handing]
  | isLocked => dsimp only; rw [m.isLocked_handing]
  | owner => dsimp only; rw [m.owner?_handing]
  | wait token ttl interval timeout => dsimp only; rw [m.wait_handing]

/-! ## Handles -/

/-- Both managers make the same handle, each for itself. -/
theorem LockManager.lock_handing (m : LockManager) (key : String) (ttl : Value) (s : Session) :
    ((m.handing decodes).lock key ttl).perform s =
      (((m.lock key ttl).perform s).1.map (·.handing decodes), ((m.lock key ttl).perform s).2) := by
  rw [m.lock_eq, (m.handing decodes).lock_eq,
    show (m.handing decodes).lifetime ttl = m.lifetime ttl from rfl]
  cases m.lifetime ttl <;> rfl

theorem Handle.enter_handing (h : Handle) : (h.handing decodes).enter = h.enter :=
  h.manager.take_handing decodes h.key h.token h.ttl

theorem Handle.exit_handing (h : Handle) : (h.handing decodes).exit = h.exit := by
  unfold exit
  simp only [handing, LockManager.release_handing]

theorem Handle.exitDuring_handing (h : Handle) (pending : Except Failure Unit) :
    (h.handing decodes).exitDuring pending = h.exitDuring pending := by
  unfold exitDuring
  rw [h.exit_handing]

end Leasehold

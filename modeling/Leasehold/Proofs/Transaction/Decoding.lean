import Leasehold.Proofs.Lock.Decoding
import Leasehold.Proofs.Transaction.Exchange

/-!
# No run depends on who reads the replies

- **Retries** (`Retry.runFrom_agrees`): attempts that agree, up to how they are looked at in the end,
  make runs that do.
- **Exchanges** (`TransactionRunner.exchange_handing`): on bytes that are no text, a client that reads
  replies fails within the batch, and one that does not fails when the exchange looks at them. The batch
  is executed either way.
- **Runs** (`World.reply_decoding_is_invisible`): steps of clients that read replies, and the same steps
  of clients that do not, have the same answers and failures, and leave the same session each time.
-/

namespace Leasehold

open Session

variable {σ α β : Type} (decodes : Bool)

/-! ## Retries -/

namespace Retry

/-- Two ends of an attempt are the same; or neither is a conflict, and they leave the same state and the
same in view. -/
inductive Agree (view : Except Failure α → β) (isConflict : Failure → Bool) :
    Except Failure α × σ → Except Failure α × σ → Prop where
  | same (x : Except Failure α × σ) : Agree view isConflict x x
  | apart {a b : Except Failure α} {s : σ} (left : ∀ f, a = .error f → catches isConflict f = false)
      (right : ∀ f, b = .error f → catches isConflict f = false) (seen : view a = view b) :
      Agree view isConflict (a, s) (b, s)

variable {view : Except Failure α → β} {attempt attempt' : Nat → Step σ α} {isConflict : Failure → Bool}
  {onConflict : Nat → Failure → Step σ Unit}

/-- An attempt that does not end with a conflict ends it all. -/
theorem runFrom_of_settled {number : Nat} {s t : σ} {a : Except Failure α}
    (h : attempt number s = (a, t)) (settled : ∀ f, a = .error f → catches isConflict f = false)
    (left : Nat) : runFrom attempt isConflict onConflict number left s = (a, t) := by
  unfold runFrom
  rw [h]
  cases a with
  | ok x => rfl
  | error f =>
    dsimp only
    rw [settled f rfl]
    rfl

/-- If the attempts agree wherever they start, so do the runs. -/
theorem runFrom_agrees
    (h : ∀ number s, Agree view isConflict (attempt number s) (attempt' number s))
    (onConflict : Nat → Failure → Step σ Unit) (number left : Nat) (s : σ) :
    (runFrom attempt isConflict onConflict number left s).2 =
        (runFrom attempt' isConflict onConflict number left s).2 ∧
      view (runFrom attempt isConflict onConflict number left s).1 =
        view (runFrom attempt' isConflict onConflict number left s).1 := by
  induction left generalizing number s with
  | zero =>
    have hagree := h number s
    generalize hx : attempt number s = x at hagree
    generalize hy : attempt' number s = y at hagree
    cases hagree with
    | same =>
      unfold runFrom
      rw [hx, hy]
      exact ⟨rfl, rfl⟩
    | apart left right seen =>
      rw [runFrom_of_settled hx left, runFrom_of_settled hy right]
      exact ⟨rfl, seen⟩
  | succ left ih =>
    have hagree := h number s
    generalize hx : attempt number s = x at hagree
    generalize hy : attempt' number s = y at hagree
    cases hagree with
    | same =>
      unfold runFrom
      rw [hx, hy]
      rcases x with ⟨f | a, t⟩
      · dsimp only
        cases catches isConflict f with
        | false => exact ⟨rfl, rfl⟩
        | true =>
          rcases onConflict number f t with ⟨g | ⟨⟩, u⟩
          · exact ⟨rfl, rfl⟩
          · exact ih (number + 1) u
      · exact ⟨rfl, rfl⟩
    | apart left right seen =>
      rw [runFrom_of_settled hx left, runFrom_of_settled hy right]
      exact ⟨rfl, seen⟩

end Retry

namespace TransactionRunner

/-- The runner, with a client that reads replies or does not. -/
def handing (r : TransactionRunner) : TransactionRunner := { r with client := r.client.handing decodes }

variable (r : TransactionRunner) (key : String) (written : Except Failure String)
  (meanwhile : Nat → List Interlude)

/-! ## Exchanges -/

/-- A commit either ends before the batch is executed, or with its execution, whoever reads replies. -/
theorem commit_handing (keys : List String) (d : Draft) (s : Session) :
    (∀ decodes, ((r.handing decodes).commit keys d).perform s = (r.commit keys d).perform s) ∨
    ∃ sent t, d.requests.mapM Request.wire? = some sent ∧
      (r.commit keys d).perform s = (r.execute d.requests (sent.map Request.meaning)).perform t ∧
      ∀ decodes, ((r.handing decodes).commit keys d).perform s =
        ((r.handing decodes).execute d.requests (sent.map Request.meaning)).perform t := by
  have hdirty : ∀ decodes, (r.handing decodes).isDirty keys d = r.isDirty keys d := fun _ => rfl
  unfold commit
  simp only [Action.perform_of, hdirty]
  rcases s.takeFault .commit with ⟨_ | f, t⟩
  · dsimp only
    split
    · exact .inl fun _ => rfl
    split
    · exact .inl fun _ => rfl
    rename_i sent hsent
    split
    · exact .inl fun _ => rfl
    split
    · exact .inl fun _ => rfl
    split
    · exact .inl fun _ => rfl
    · exact .inr ⟨sent, t, hsent, rfl, fun _ => rfl⟩
  · exact .inl fun _ => rfl

/-- What an exchange makes of the end of a run. -/
def seen (key : String) (outcome : Except Failure (List Value)) : Except Failure (Json × Bool) :=
  (outcome.mapError (concluded [key])).bind swapped

/-- What is executed fails in no words but its own. -/
theorem mapError_of_answered {outcome : Except Failure (List Value)}
    (h : ∀ f, outcome = .error f → Answered f) (operation : String) (name : Option String) :
    outcome.mapError (·.surfaced operation name) = outcome := by
  cases outcome with
  | ok vs => rfl
  | error f => exact congrArg Except.error ((h f rfl).surfaced operation name)

theorem seen_of_answered {outcome : Except Failure (List Value)}
    (h : ∀ f, outcome = .error f → Answered f) : seen key outcome = outcome.bind swapped := by
  cases outcome with
  | ok vs => rfl
  | error f => exact congrArg Except.error ((h f rfl).ofRequest.concluded [key])

/-- The batch of an exchange is executed with the same effect, and the exchange sees the same. -/
theorem execute_agrees (text : String) (s : Session) (p : Progress) (name : Option String) :
    let outcome := fun r : TransactionRunner => (r.execute [reading key, writing key text]
      ((exchanged key text).map Request.meaning)).perform s
    let ended := fun r : TransactionRunner =>
      ((outcome r).1.mapError (·.surfaced "exec" name), { p with session := (outcome r).2 })
    Retry.Agree (seen key) (fun f => f.isA .watch) (ended (r.handing decodes)) (ended r) := by
  intro outcome ended
  have hanswered : ∀ (r : TransactionRunner) f, (outcome r).1 = .error f → Answered f :=
    fun _ _ => execute_error
  have hended : ∀ r : TransactionRunner, ended r = ((outcome r).1, { p with session := (outcome r).2 }) :=
    fun r => by simp only [ended, mapError_of_answered (hanswered r)]
  have hsettled : ∀ (r : TransactionRunner) f, (outcome r).1 = .error f →
      Retry.catches (fun f => f.isA .watch) f = false := fun r f hf => by
    rw [Retry.catches_watch]
    exact (hanswered r f hf).ofRequest.unwatched
  obtain ⟨hanswer, hsession⟩ := r.execute_exchanging key text s
  obtain ⟨hanswer', hsession'⟩ := (r.handing decodes).execute_exchanging key text s
  rw [hended, hended, show (outcome (r.handing decodes)).2 = (outcome r).2 from
    hsession'.trans hsession.symm]
  refine .apart (hsettled _) (hsettled _) ?_
  rw [seen_of_answered key (hanswered _), seen_of_answered key (hanswered _)]
  exact hanswer'.trans hanswer.symm

/-- The attempts of both clients agree on what the exchange sees. -/
theorem attempt_agrees (p : Progress) :
    let build := exchangeBuild key written meanwhile
    Retry.Agree (seen key) (fun f => f.isA .watch) ((r.handing decodes).attempt [key] build p)
      (r.attempt [key] build p) := by
  intro build
  rcases hwatch : (Action.reach .watch).perform p.session with ⟨f | ⟨⟩, s'⟩
  · have hguarded : [key] ≠ [] := List.cons_ne_nil key []
    rw [attempt_of_setback (.watch hguarded hwatch), attempt_of_setback (.watch hguarded hwatch)]
    exact .same _
  have reached : Reached [key] p.session := fun _ => by rw [hwatch]
  rw [attempt_eq_of_reached reached, attempt_eq_of_reached reached]
  cases written with
  | error f =>
    rw [show Move.raised (build (p.builds + 1)) = some f from raised_exchangeBuild _]
    exact .same _
  | ok text =>
    rw [show Move.raised (build (p.builds + 1)) = none from raised_exchangeBuild _]
    have hqueued : (batch [key] build p).requests = [reading key, writing key text] :=
      queued_exchangeBuild text _
    dsimp only
    obtain hsame | ⟨sent, t, hsent, hcommit, hcommit'⟩ :=
      r.commit_handing [key] (batch [key] build p) (built [key] build p)
    · rw [hsame]
      exact .same _
    · rw [hqueued, mapM_wire?_exchanged] at hsent
      cases hsent
      rw [hcommit, hcommit', hqueued]
      exact r.execute_agrees decodes key text t { p with builds := p.builds + 1 } _

/-- An exchange is the same for both clients. -/
theorem exchange_handing :
    (r.handing decodes).exchange key written meanwhile = r.exchange key written meanwhile := by
  refine Action.ext_perform fun s => ?_
  rw [exchange_perform, exchange_perform, run_eq, run_eq,
    show (r.handing decodes).allowance .null = r.allowance .null from rfl]
  unfold Retry.run
  cases Retry.budget (r.allowance .null) with
  | error f => rfl
  | ok n =>
    obtain ⟨hstate, hview⟩ := Retry.runFrom_agrees
      (fun _ p => r.attempt_agrees decodes key written meanwhile p)
      (notify [key] (r.allowance .null) none) 1 (n - 1) { session := s }
    exact Prod.ext hview (congrArg Progress.session hstate)

end TransactionRunner

/-! ## Runs -/

/-- A step of a run in which clients use locks and exchange JSON values: a call to a manager, the making,
an enter or an exit of a handle, an exchange while others do something in each attempt, time that passes,
or something from outside. -/
inductive ClientStep where
  | call (c : LockCall)
  | lock (m : LockManager) (key : String) (ttl : Value)
  | enter (handle : Nat)
  | exit (handle : Nat) (pending : Except Failure Unit)
  | exchange (r : TransactionRunner) (key : String) (written : Except Failure String)
      (meanwhile : Nat → List Interlude)
  | pass (ms : Nat)
  | happening (h : Happening)
  | expect (events : List Event)
  | arrange (p : Point) (faults : List (Option Failure))

/-- What a step is answered. -/
inductive ClientAnswer where
  | called (result : LockResult)
  /-- A handle with a token was made. -/
  | made (token : String)
  | entered (acquired : Bool)
  | exited
  /-- The value before an exchange, and whether the new one was stored. -/
  | exchanged (previous : Json) (stored : Bool)
  /-- There was nothing to answer. -/
  | none

/-- The step, by clients that read replies or by clients that do not. -/
def ClientStep.handing : ClientStep → ClientStep
  | .call c => .call (c.handing decodes)
  | .lock m key ttl => .lock (m.handing decodes) key ttl
  | .exchange r key written meanwhile => .exchange (r.handing decodes) key written meanwhile
  | .enter i => .enter i
  | .exit i pending => .exit i pending
  | .pass ms => .pass ms
  | .happening h => .happening h
  | .expect events => .expect events
  | .arrange p faults => .arrange p faults

namespace World

/-- The session, with handles of such clients. -/
def handing (w : World) : World := { w with handles := w.handles.map (·.handing decodes) }

/-- Makes a step; what it is answered or fails with. -/
def respond (w : World) : ClientStep → Except Failure ClientAnswer × World
  | .call c =>
    let (outcome, session) := c.action.perform w.session
    (outcome.map .called, { w with session })
  | .lock m key ttl =>
    (((m.lock key ttl).perform w.session).1.map fun h => .made h.token, w.locking m key ttl)
  | .enter i =>
    (match w.handles[i]? with
      | none => .ok .none
      | some h => (h.enter.perform w.session).1.map .entered, (w.entering i).2)
  | .exit i pending =>
    (match w.handles[i]? with
      | none => .ok .none
      | some h => ((h.exitDuring pending).perform w.session).1.map fun _ => .exited,
      (w.exiting i pending).2)
  | .exchange r key written meanwhile =>
    let (outcome, session) := (r.exchange key written meanwhile).perform w.session
    (outcome.map fun (previous, stored) => .exchanged previous stored, { w with session })
  | .pass ms => (.ok .none, { w with session := w.session.pass ms })
  | .happening h => (.ok .none, { w with session := (h.run w.session).2 })
  | .expect events => (.ok .none, { w with session := w.session.expecting events })
  | .arrange p faults => (.ok .none, { w with session := w.session.arrange p faults })

/-- Makes steps one after the other: what each is answered, and the session after it. -/
def trace (w : World) : List ClientStep → List (Except Failure ClientAnswer × Session)
  | [] => []
  | a :: rest =>
    let (answer, w) := w.respond a
    (answer, w.session) :: w.trace rest

variable (w : World)

theorem handing_getElem? (i : Nat) :
    (w.handing decodes).handles[i]? = w.handles[i]?.map (·.handing decodes) :=
  List.getElem?_map

theorem locking_handing (m : LockManager) (key : String) (ttl : Value) :
    (w.handing decodes).locking (m.handing decodes) key ttl = (w.locking m key ttl).handing decodes := by
  unfold locking handing
  dsimp only
  rw [m.lock_handing]
  rcases (m.lock key ttl).perform w.session with ⟨f | h, s⟩
  · rfl
  · simp [Except.map]

theorem entering_handing (i : Nat) :
    ((w.handing decodes).entering i).2 = (w.entering i).2.handing decodes := by
  unfold entering
  rw [handing_getElem?]
  cases w.handles[i]? with
  | none => rfl
  | some h =>
    dsimp only [Option.map]
    rw [h.enter_handing]
    simp only [handing, List.map_set]
    rcases (h.enter.perform w.session).1 with f | b <;> rfl

theorem exiting_handing (i : Nat) (pending : Except Failure Unit) :
    ((w.handing decodes).exiting i pending).2 = (w.exiting i pending).2.handing decodes := by
  unfold exiting
  rw [handing_getElem?]
  cases w.handles[i]? with
  | none => rfl
  | some h =>
    dsimp only [Option.map]
    rw [h.exitDuring_handing]
    simp only [handing, List.map_set]
    rfl

/-- A step is the same for both sorts of clients. -/
theorem respond_handing (a : ClientStep) :
    (w.handing decodes).respond (a.handing decodes) =
      ((w.respond a).1, (w.respond a).2.handing decodes) := by
  cases a with
  | call c =>
    simp only [ClientStep.handing, respond, c.action_handing]
    rfl
  | lock m key ttl =>
    simp only [ClientStep.handing, respond, locking_handing, m.lock_handing]
    show ((((m.lock key ttl).perform w.session).1.map _).map _, _) = _
    cases ((m.lock key ttl).perform w.session).1 <;> rfl
  | enter i =>
    simp only [ClientStep.handing, respond, entering_handing, handing_getElem?]
    cases w.handles[i]? with
    | none => rfl
    | some h =>
      dsimp only [Option.map]
      rw [h.enter_handing]
      rfl
  | exit i pending =>
    simp only [ClientStep.handing, respond, exiting_handing, handing_getElem?]
    cases w.handles[i]? with
    | none => rfl
    | some h =>
      dsimp only [Option.map]
      rw [h.exitDuring_handing]
      rfl
  | exchange r key written meanwhile =>
    simp only [ClientStep.handing, respond, r.exchange_handing]
    rfl
  | pass | happening | expect | arrange => rfl

/-- A run is the same for both sorts of clients. -/
theorem trace_handing (steps : List ClientStep) :
    (w.handing decodes).trace (steps.map (·.handing decodes)) = w.trace steps := by
  induction steps generalizing w with
  | nil => rfl
  | cons a rest ih =>
    rw [List.map_cons, trace, respond_handing]
    dsimp only
    rw [ih]
    rfl

/-- **It does not matter who reads the replies.** Whatever the databases hold, and whatever else happens
in between, a run of lock operations, handles and exchanges is answered the same by clients that turn
replies into text and by clients that hand on their bytes. They fail at the same steps with the same
failures, also where bytes are no text, and leave the same session after every step. -/
theorem reply_decoding_is_invisible (steps : List ClientStep) :
    (w.handing true).trace (steps.map (·.handing true)) =
      (w.handing false).trace (steps.map (·.handing false)) :=
  (w.trace_handing true steps).trans (w.trace_handing false steps).symm

end World

end Leasehold

import Leasehold.Proofs.Session.Issue
import Leasehold.Transaction.Batch

/-!
# What batches do

- **Builds** (`Draft.build_eq`): a build collects what it queues before it raises, and lets happen
  what happens meanwhile (`Move.outside`), which does not depend on what is queued.
- **Execution** (`TransactionRunner.execute_ok`): a batch whose results are returned was served
  request by request (`Request.Served`), with nothing in between.
- **Commits** (`TransactionRunner.commit_cases`): a batch is executed as a whole, or something stops
  it (`TransactionRunner.Stopped`) and nothing of it takes effect.
-/

namespace Leasehold

open Session

/-! ## Builds -/

namespace Move

/-- What a build queues, up to the first move that raises a failure. -/
def queued : List Move → List Request
  | [] => []
  | .queue r :: rest => r :: queued rest
  | .happening _ :: rest => queued rest
  | .pass _ :: rest => queued rest
  | .raise _ :: _ => []

/-- What a build raises, if anything. -/
def raised : List Move → Option Failure
  | [] => none
  | .queue _ :: rest => raised rest
  | .happening _ :: rest => raised rest
  | .pass _ :: rest => raised rest
  | .raise f :: _ => some f

/-- What happens while a build makes its moves, without anything that the build does itself: the
databases and keys that were touched, and the session afterwards. -/
def outside : List Move → Session → List (Int × Bytes) × Session
  | [], s => ([], s)
  | .queue _ :: rest, s => outside rest s
  | .happening h :: rest, s =>
    let (touched, s) := h.run s
    let (more, s) := outside rest s
    (touched ++ more, s)
  | .pass ms :: rest, s =>
    let (touched, s) := s.through (s.clock + ms)
    let (more, s) := outside rest s
    (touched ++ more, s)
  | .raise _ :: _, s => ([], s)

end Move

/-- A build collects what it queues and sees all that is touched meanwhile. -/
theorem Draft.build_eq (d : Draft) (moves : List Move) (s : Session) :
    d.build moves s =
      ((match Move.raised moves with
        | some f => .error f
        | none => .ok ⟨d.requests ++ Move.queued moves, d.touched ++ (Move.outside moves s).1⟩),
        (Move.outside moves s).2) := by
  induction moves generalizing d s with
  | nil =>
    unfold build Move.raised Move.queued Move.outside
    rw [List.append_nil, List.append_nil]
  | cons move rest ih =>
    cases move with
    | queue r =>
      unfold build Move.raised Move.queued Move.outside
      rw [ih, List.append_assoc]
      rfl
    | happening h =>
      unfold build Move.raised Move.queued Move.outside
      dsimp only
      rw [ih, List.append_assoc]
    | pass ms =>
      unfold build Move.raised Move.queued Move.outside
      dsimp only
      rw [ih, List.append_assoc]
    | raise f => rfl

/-- In alike sessions the same happens during a build. -/
theorem Move.outside_alike (moves : List Move) {s t : Session} (h : s.Alike t) :
    (outside moves s).1 = (outside moves t).1 ∧ (outside moves s).2.Alike (outside moves t).2 := by
  induction moves generalizing s t with
  | nil => exact ⟨rfl, h⟩
  | cons move rest ih =>
    cases move with
    | queue r => exact ih h
    | happening hp =>
      obtain ⟨h₁, h₂⟩ := hp.run_alike h
      obtain ⟨h₃, h₄⟩ := ih h₂
      exact ⟨congrArg₂ _ h₁ h₃, h₄⟩
    | pass ms =>
      have hthrough := h.toSameServer.through h.events (s.clock + ms)
      unfold outside
      dsimp only
      rw [h.clock] at hthrough ⊢
      obtain ⟨h₁, h₂⟩ := hthrough
      obtain ⟨h₃, h₄⟩ := ih h₂
      exact ⟨congrArg₂ _ h₁ h₃, h₄⟩
    | raise f => exact ⟨rfl, h⟩

/-- A build during which nothing touches a key leaves its entry alone. -/
theorem Move.find?_outside {moves : List Move} {s : Session} {n : Int} {k : Bytes}
    (h : (n, k) ∉ (outside moves s).1) :
    ((outside moves s).2.database n).find? k = (s.database n).find? k := by
  induction moves generalizing s with
  | nil => rfl
  | cons move rest ih =>
    cases move with
    | queue r => exact ih h
    | happening hp =>
      obtain ⟨h₁, h₂⟩ := not_or.mp fun hk => h (List.mem_append.mpr hk)
      exact (ih h₂).trans (find?_run h₁)
    | pass ms =>
      obtain ⟨h₁, h₂⟩ := not_or.mp fun hk => h (List.mem_append.mpr hk)
      exact (ih h₂).trans (find?_through h₁)
    | raise f => rfl

/-! ## Execution -/

/-- A database after requests that work on it one after the other. -/
def Request.storeAfter (now : Int) (meanings : List Request.Meaning) (d : Store) : Store :=
  meanings.foldl (fun d m => (m.run now d).store) d

theorem Request.runAll_store (now : Int) (meanings : List Request.Meaning) (d : Store) :
    (runAll now meanings d).2 = storeAfter now meanings d := by
  induction meanings generalizing d with
  | nil => rfl
  | cons m rest ih => exact ih _

/-- Requests are served one after the other: each is sent, answered and read, and turned into the
value that it returns; the next works on the database that it leaves. -/
inductive Request.Served (decodes : Bool) (now : Int) :
    List Request → Store → List Value → Store → Prop where
  | nil (d : Store) : Served decodes now [] d [] d
  | cons {r : Request} {rest : List Request} {words : List Bytes} {d d' : Store} {reply : Reply}
      {v : Value} {vs : List Value} (sent : r.wire? = some words)
      (answered : ((meaning words).run now d).reply = .ok reply)
      (read : read decodes reply = .ok v)
      (later : Served decodes now rest ((meaning words).run now d).store vs d') :
      Served decodes now (r :: rest) d (converted r.givenName v :: vs) d'

/-- A partial function that has a value for each member of a list has one for the first and for each of
the others. -/
theorem mapM_cons_eq_some {α β : Type} {f : α → Option β} {a : α} {as : List α} {bs : List β} :
    (a :: as).mapM f = some bs ↔ ∃ b rest, f a = some b ∧ as.mapM f = some rest ∧ bs = b :: rest := by
  rw [List.mapM_cons]
  simp only [Option.bind_eq_bind, Option.bind_eq_some_iff, Option.pure_def, Option.some.injEq]
  exact ⟨fun ⟨b, hb, rest, hrest, e⟩ => ⟨b, rest, hb, hrest, e.symm⟩,
    fun ⟨b, rest, hb, hrest, e⟩ => ⟨b, hb, rest, hrest, e.symm⟩⟩

/-- A batch can be sent without a malformed request exactly when each of its requests can. -/
theorem Request.forall_known_iff {requests : List Request} :
    (∀ r ∈ requests, ∃ words, r.wire? = some words ∧ meaning words ≠ .malformed) ↔
      ∃ sent, requests.mapM wire? = some sent ∧ .malformed ∉ sent.map meaning := by
  induction requests with
  | nil => exact iff_of_true (fun _ h => absurd h List.not_mem_nil) ⟨[], rfl, List.not_mem_nil⟩
  | cons r rest ih =>
    simp only [List.forall_mem_cons, ih, mapM_cons_eq_some]
    constructor
    · rintro ⟨⟨words, hwords, hknown⟩, sent, hsent, hmore⟩
      refine ⟨_, ⟨words, sent, hwords, hsent, rfl⟩, ?_⟩
      rw [List.map_cons, List.mem_cons, not_or]
      exact ⟨Ne.symm hknown, hmore⟩
    · rintro ⟨_, ⟨words, sent, hwords, hsent, rfl⟩, hmore⟩
      rw [List.map_cons, List.mem_cons, not_or] at hmore
      exact ⟨⟨words, hwords, Ne.symm hmore.1⟩, sent, hsent, hmore.2⟩

/-- What it takes for results to be returned. -/
theorem Request.served_of_results {decodes : Bool} {now : Int} {requests : List Request}
    {sent : List (List Bytes)} (hsent : requests.mapM wire? = some sent) {d : Store}
    {values : List (Except Refusal Value)} {vs : List Value} {place : Nat}
    (hread : (runAll now (sent.map meaning) d).1.mapM (readOutcome decodes) = .ok values)
    (hresults : results place requests values = .ok vs) :
    Served decodes now requests d vs (storeAfter now (sent.map meaning) d) := by
  induction requests generalizing sent d values vs place with
  | nil =>
    rw [List.mapM_nil] at hsent
    cases hsent
    cases hread
    cases hresults
    exact .nil d
  | cons r rest ih =>
    obtain ⟨words, more, hwords, hmore, rfl⟩ := mapM_cons_eq_some.mp hsent
    rw [List.map_cons] at hread ⊢
    rw [runAll] at hread
    dsimp only at hread
    rw [List.mapM_cons] at hread
    cases hreply : ((meaning words).run now d).reply with
    | error e =>
      -- A refusal has no value, so no results are returned.
      rw [hreply] at hread
      cases hm : (runAll now (more.map meaning) ((meaning words).run now d).store).1.mapM
          (readOutcome decodes) with
      | error e => rw [hm] at hread; cases hread
      | ok others => rw [hm] at hread; cases hread; cases hresults
    | ok reply =>
      rw [hreply] at hread
      cases hv : read decodes reply with
      | error e =>
        simp only [readOutcome, hv] at hread
        cases hread
      | ok v =>
        simp only [readOutcome, hv] at hread
        cases hm : (runAll now (more.map meaning) ((meaning words).run now d).store).1.mapM
            (readOutcome decodes) with
        | error e => rw [hm] at hread; cases hread
        | ok others =>
          rw [hm] at hread
          cases hread
          simp only [results] at hresults
          cases hrest : results (place + 1) rest others with
          | error e => rw [hrest] at hresults; cases hresults
          | ok ws =>
            rw [hrest] at hresults
            cases hresults
            exact .cons hwords hreply hv (ih hmore hm hrest)

/-- Results fail to come because of the first refusal, with its place. -/
theorem Request.results_error {place : Nat} {requests : List Request}
    {values : List (Except Refusal Value)} {f : Failure} (h : results place requests values = .error f) :
    ∃ (before : List Value) (why : Refusal) (later : List (Except Refusal Value)),
      values = before.map .ok ++ .error why :: later ∧
      f = .of (.refused (some (place + before.length)) why) := by
  induction values generalizing place requests with
  | nil => rw [results] at h; cases h
  | cons v rest ih =>
    cases v with
    | error why =>
      rw [results] at h
      cases h
      exact ⟨[], why, rest, rfl, rfl⟩
    | ok v =>
      obtain ⟨rs, hrest⟩ : ∃ rs, results (place + 1) rs rest = .error f := by
        cases requests with
        | nil =>
          cases hr : results (place + 1) [] rest with
          | ok vs => simp [results, hr, Except.map] at h
          | error g => exact ⟨[], by simpa [results, hr, Except.map] using h⟩
        | cons r rs =>
          cases hr : results (place + 1) rs rest with
          | ok vs => simp [results, hr, Except.map] at h
          | error g => exact ⟨rs, by simpa [results, hr, Except.map] using h⟩
      obtain ⟨before, why, later, rfl, rfl⟩ := ih hrest
      refine ⟨v :: before, why, later, rfl, ?_⟩
      rw [List.length_cons, Nat.add_right_comm, Nat.add_assoc]

namespace TransactionRunner

variable (r : TransactionRunner) (keys : List String)

/-- A failure that a batch answers with after it has been executed. -/
def Answered (f : Failure) : Prop :=
  (∃ place why, f = .of (.refused (some place) why)) ∨ ∃ e, f = .of (.undecodable e)

/-- What is executed has its whole effect on the database of the client, also when a request is
refused or a reply cannot be read. -/
theorem execute_session (requests : List Request) (meanings : List Request.Meaning) (s : Session) :
    ((r.execute requests meanings).perform s).2 = s.withDatabase r.client.database
      (Request.storeAfter s.clock meanings (s.database r.client.database)) := by
  unfold execute
  rw [Action.perform_of, ← Request.runAll_store]
  rcases Request.runAll s.clock meanings (s.database r.client.database) with ⟨replies, d⟩
  dsimp only
  split <;> rfl

variable {r}

theorem execute_ok {requests : List Request} {sent : List (List Bytes)}
    (hsent : requests.mapM Request.wire? = some sent) {s : Session} {vs : List Value}
    (h : ((r.execute requests (sent.map Request.meaning)).perform s).1 = .ok vs) :
    Request.Served r.client.decodes s.clock requests (s.database r.client.database) vs
      (Request.storeAfter s.clock (sent.map Request.meaning) (s.database r.client.database)) := by
  unfold execute at h
  rw [Action.perform_of] at h
  cases hread : (Request.runAll s.clock (sent.map Request.meaning)
      (s.database r.client.database)).1.mapM (Request.readOutcome r.client.decodes) with
  | error e => simp only [hread] at h; cases h
  | ok values =>
    simp only [hread] at h
    exact Request.served_of_results hsent hread h

theorem execute_error {requests : List Request} {meanings : List Request.Meaning} {s : Session}
    {f : Failure} (h : ((r.execute requests meanings).perform s).1 = .error f) : Answered f := by
  unfold execute at h
  rw [Action.perform_of] at h
  cases hread : (Request.runAll s.clock meanings (s.database r.client.database)).1.mapM
      (Request.readOutcome r.client.decodes) with
  | error e =>
    simp only [hread] at h
    cases h
    exact .inr ⟨e, rfl⟩
  | ok values =>
    simp only [hread] at h
    obtain ⟨_, why, _, -, rfl⟩ := Request.results_error h
    exact .inl ⟨_, why, rfl⟩

/-- Execution depends on the server and the clock only. -/
theorem execute_alike {requests : List Request} {meanings : List Request.Meaning} {s t : Session}
    (h : s.Alike t) : ((r.execute requests meanings).perform s).1 =
      ((r.execute requests meanings).perform t).1 := by
  unfold execute
  rw [Action.perform_of, Action.perform_of, h.clock, h.database]
  dsimp only
  split <;> rfl

/-! ## Commits -/

/-- What stops a batch before the server runs any of it. -/
inductive Stopped (r : TransactionRunner) (keys : List String) (d : Draft) (s : Session) :
    Failure → Prop where
  | arranged {f : Failure} (fault : (s.takeFault .commit).1 = some f) :
      Stopped r keys d s (f.during s.handling)
  | down (isUp : s.isUp = false) (unwatched : keys = []) : Stopped r keys d s Action.unreachable
  | unsendable (unsent : d.requests.mapM Request.wire? = none) :
      Stopped r keys d s (Request.unsent d.requests)
  | broken (isUp : s.isUp = false) : Stopped r keys d s brokenWatch
  | malformed {sent : List (List Bytes)} (hsent : d.requests.mapM Request.wire? = some sent)
      (spoilt : Request.Meaning.malformed ∈ sent.map Request.meaning) :
      Stopped r keys d s (Request.spoilt (sent.map Request.meaning))
  | changed (dirty : r.isDirty keys d = true) : Stopped r keys d s changed

/-- A batch reaches the server and is executed there under the watched keys. -/
structure Accepted (r : TransactionRunner) (keys : List String) (d : Draft) (s : Session)
    (sent : List (List Bytes)) : Prop where
  fault : (s.takeFault .commit).1 = none
  isUp : s.isUp = true
  sent : d.requests.mapM Request.wire? = some sent
  clean : r.isDirty keys d = false

/-- Something stops a batch, or it is executed as a whole. -/
theorem commit_cases (r : TransactionRunner) (keys : List String) (d : Draft) (s : Session) :
    (∃ f, r.Stopped keys d s f ∧
      (r.commit keys d).perform s = (.error f, (s.takeFault .commit).2)) ∨
    ∃ sent, r.Accepted keys d s sent ∧ (r.commit keys d).perform s =
      (r.execute d.requests (sent.map Request.meaning)).perform (s.takeFault .commit).2 := by
  unfold commit
  rw [Action.perform_of]
  have heq := takeFault_eq s .commit
  rcases hf : s.takeFault .commit with ⟨_ | f, t⟩
  · rw [hf] at heq
    replace heq : t = _ := heq
    have hup : t.isUp = s.isUp := by rw [heq]
    dsimp only
    rw [hup]
    cases hs : s.isUp with
    | false =>
      rw [Bool.not_false, Bool.true_and]
      cases hk : keys.isEmpty with
      | true => exact .inl ⟨_, .down hs (List.isEmpty_iff.mp hk), rfl⟩
      | false =>
        cases hsent : d.requests.mapM Request.wire? with
        | none => exact .inl ⟨_, .unsendable hsent, rfl⟩
        | some sent => exact .inl ⟨_, .broken hs, rfl⟩
    | true =>
      rw [Bool.not_true, Bool.false_and]
      cases hsent : d.requests.mapM Request.wire? with
      | none => exact .inl ⟨_, .unsendable hsent, rfl⟩
      | some sent =>
        simp only [Bool.false_eq_true, if_false]
        split
        · rename_i hm
          exact .inl ⟨_, .malformed hsent (List.contains_iff_mem.mp hm), rfl⟩
        · cases hd : r.isDirty keys d with
          | true => exact .inl ⟨_, .changed hd, rfl⟩
          | false => exact .inr ⟨sent, ⟨by rw [hf], hs, hsent, hd⟩, rfl⟩
  · refine .inl ⟨f.during t.handling, ?_, rfl⟩
    have hh : t.handling = s.handling := by
      rw [hf] at heq
      rw [show t = _ from heq]
    rw [hh]
    exact .arranged (by rw [hf])

end TransactionRunner
end Leasehold

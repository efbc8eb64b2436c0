import Leasehold.Proofs.Text.Utf8
import Leasehold.Proofs.Transaction.Setback

/-!
# What exchanges of JSON values do

An exchange reads a key and gives it a text in one batch. It looks at what it read only when the batch
has been executed.

- **The batch** (`TransactionRunner.execute_exchanging`): the key has the new text afterwards, whatever
  it held, and the answer is what the key held before, as far as that can be read (`Entry.json`).
- **An exchange** (`TransactionRunner.exchange_cases`) leaves the session to others alone and fails, or
  its batch is executed.
-/

namespace Leasehold

open Session

/-- The JSON value that an entry holds; without an entry it is null. An exchange meets a list as a refusal
of its first request. -/
def Entry.json : Option Entry → Except Failure Json
  | none => .ok .null
  | some ⟨.list _, _⟩ => .error (.of (.refused (some 1) .wrongType))
  | some ⟨.string b, _⟩ =>
    match Utf8.decode b with
    | .error e => .error (.of (.undecodable e))
    | .ok s => TransactionRunner.jsonOf s

/-- The entry of a key that was given a text. -/
def Entry.ofText (text : String) : Entry := ⟨.string (Utf8.encode text), none⟩

namespace TransactionRunner

variable {r : TransactionRunner} {key : String} {written : Except Failure String}
  {meanwhile : Nat → List Interlude} {s : Session}

/-! ## Builds -/

/-- What an exchange builds while others do something. -/
def exchangeBuild (key : String) (written : Except Failure String)
    (meanwhile : Nat → List Interlude) : Build :=
  fun number => (meanwhile number).map Interlude.move ++ exchanging key written

/-- The request that reads a key. -/
def reading (key : String) : Request := [.text "GET", .text key]

/-- The request that gives a key a text. -/
def writing (key text : String) : Request := [.text "SET", .text key, .text text]

theorem raised_interludes (interludes : List Interlude) (moves : List Move) :
    Move.raised (interludes.map Interlude.move ++ moves) = Move.raised moves := by
  induction interludes with
  | nil => rfl
  | cons i rest ih => cases i <;> exact ih

theorem queued_interludes (interludes : List Interlude) (moves : List Move) :
    Move.queued (interludes.map Interlude.move ++ moves) = Move.queued moves := by
  induction interludes with
  | nil => rfl
  | cons i rest ih => cases i <;> exact ih

/-- A build that can write its text raises nothing. -/
theorem raised_exchangeBuild (number : Nat) :
    Move.raised (exchangeBuild key written meanwhile number) =
      match written with
      | .ok _ => none
      | .error f => some f := by
  rw [exchangeBuild, raised_interludes]
  cases written <;> rfl

theorem queued_exchangeBuild (text : String) (number : Nat) :
    Move.queued (exchangeBuild key (.ok text) meanwhile number) =
      [reading key, writing key text] := by
  rw [exchangeBuild, queued_interludes]
  rfl

/-- What others do during a build of an exchange is what they do before it queues anything. -/
theorem outside_exchangeBuild (number : Nat) (s : Session) :
    Move.outside (exchangeBuild key written meanwhile number) s =
      Move.outside ((meanwhile number).map Interlude.move) s := by
  unfold exchangeBuild
  induction meanwhile number generalizing s with
  | nil => cases written <;> rfl
  | cons i rest ih =>
    cases i with
    | happening h => exact congrArg (fun p => ((h.run s).1 ++ p.1, p.2)) (ih (h.run s).2)
    | pass ms => exact congrArg (fun p => ((s.through (s.clock + ms)).1 ++ p.1, p.2)) (ih _)

/-! ## The batch -/

/-- A session in which a key was given a text. -/
def given (r : TransactionRunner) (key text : String) (s : Session) : Session :=
  s.withDatabase r.client.database
    ((s.database r.client.database).put (Utf8.encode key) (Entry.ofText text))

/-- What a key holds in a session, as the client sees it. -/
def held (r : TransactionRunner) (key : String) (s : Session) : Option Entry :=
  (s.database r.client.database).live s.clock (Utf8.encode key)

theorem held_alike {t : Session} (h : s.Alike t) : r.held key s = r.held key t := by
  rw [held, held, h.clock, h.database]

theorem wire?_reading (key : String) :
    (reading key).wire? = some [Utf8.encode "GET", Utf8.encode key] := rfl

theorem wire?_writing (key text : String) :
    (writing key text).wire? = some [Utf8.encode "SET", Utf8.encode key, Utf8.encode text] := rfl

theorem meaning_reading (k : Bytes) :
    Request.meaning [Utf8.encode "GET", k] = .command (.get k) := rfl

theorem meaning_writing (k v : Bytes) :
    Request.meaning [Utf8.encode "SET", k, v] = .command (.set k v none .always) := rfl

/-- The byte strings that an exchange sends. -/
def exchanged (key text : String) : List (List Bytes) :=
  [[Utf8.encode "GET", Utf8.encode key], [Utf8.encode "SET", Utf8.encode key, Utf8.encode text]]

theorem mapM_wire?_exchanged (key text : String) :
    [reading key, writing key text].mapM Request.wire? = some (exchanged key text) := rfl

/-- What an exchange makes of the results of its batch. -/
def swapped : List Value → Except Failure (Json × Bool)
  | [previous, stored] => (jsonOfReply previous).map (·, stored.isTruthy)
  | _ => .ok (.null, false)

/-- A byte string in a reply is read as the value that the entry holds. -/
theorem jsonOfReply_bytes (b : Bytes) (deadline : Option Int) :
    jsonOfReply (.bytes b) = Entry.json (some ⟨.string b, deadline⟩) := by
  unfold jsonOfReply Entry.json
  dsimp only
  cases Utf8.decode b <;> rfl

/-- The reply to reading a key. -/
def lookedUp : Option Entry → Except Refusal Reply
  | none => .ok (.bulk none)
  | some ⟨.string b, _⟩ => .ok (.bulk (some b))
  | some ⟨.list _, _⟩ => .error .wrongType

theorem run_get (now : Int) (d : Store) (k : Bytes) :
    Command.run now d (.get k) = ⟨lookedUp (d.live now k), d, []⟩ := by
  unfold Command.run
  dsimp only
  rcases d.live now k with _ | ⟨_ | _, _⟩ <;> rfl

theorem runAll_exchanged (now : Int) (key text : String) (d : Store) :
    Request.runAll now ((exchanged key text).map Request.meaning) d =
      ([lookedUp (d.live now (Utf8.encode key)), .ok .ok],
        d.put (Utf8.encode key) (Entry.ofText text)) := by
  show (let e := Command.run now d (.get _)
    ([e.reply, (Command.run now e.store (.set _ _ none .always)).reply],
      (Command.run now e.store (.set _ _ none .always)).store)) = _
  rw [run_get]
  rfl

/-- The batch of an exchange answers with what the key held and leaves it with the new text. -/
theorem execute_exchanging (r : TransactionRunner) (key text : String) (s : Session) :
    let executed := (r.execute [reading key, writing key text]
      ((exchanged key text).map Request.meaning)).perform s
    executed.1.bind swapped = (Entry.json (r.held key s)).map (·, true) ∧
      executed.2 = r.given key text s := by
  intro executed
  refine ⟨?_, ?_⟩
  · obtain ⟨ok, hok, hset⟩ := Request.read_ok r.client.decodes
    show ((r.execute _ _).perform s).1.bind swapped = _
    unfold execute
    rw [Action.perform_of, runAll_exchanged]
    change _ = (Entry.json ((s.database r.client.database).live s.clock (Utf8.encode key))).map _
    dsimp only
    rw [List.mapM_cons, List.mapM_cons, List.mapM_nil]
    simp only [Request.readOutcome, hok]
    -- What the key held decides: nothing, a list, or a byte string that the client may decode.
    rcases (s.database r.client.database).live s.clock (Utf8.encode key) with _ | ⟨b | items, deadline⟩
    · show Except.ok (Json.null, Value.isTruthy (Request.converted (some "SET") ok)) = _
      rw [hset]
      rfl
    · simp only [lookedUp, Request.read, Request.handedOn?, Request.handedOn]
      cases r.client.decodes with
      | false =>
        show (jsonOfReply (.bytes b)).map (·, Value.isTruthy (Request.converted (some "SET") ok)) = _
        rw [hset, jsonOfReply_bytes b deadline]
        rfl
      | true =>
        simp only [if_true, Entry.json]
        cases Utf8.decode b with
        | error e => rfl
        | ok t =>
          show (jsonOf t).map (·, Value.isTruthy (Request.converted (some "SET") ok)) = _
          rw [hset]
          rfl
    · rfl
  · show ((r.execute _ _).perform s).2 = _
    rw [execute_session, ← Request.runAll_store, runAll_exchanged]
    rfl

/-! ## One exchange -/

theorem runPlain_perform (r : TransactionRunner) (keys : List String) (build : Build) (v : Value)
    (s : Session) :
    (r.runPlain keys build v).perform s =
      let done := r.run keys build v none { session := s }
      (done.1, done.2.session) := rfl

theorem exchange_perform (r : TransactionRunner) (key : String) (written : Except Failure String)
    (meanwhile : Nat → List Interlude) (s : Session) :
    (r.exchange key written meanwhile).perform s =
      let done := r.run [key] (exchangeBuild key written meanwhile) .null none { session := s }
      (done.1.bind swapped, done.2.session) := by
  unfold exchange
  rw [Action.perform_bind]
  have hplain := r.runPlain_perform [key] (exchangeBuild key written meanwhile) .null s
  unfold exchangeBuild at hplain ⊢
  rw [hplain]
  generalize r.run [key] _ .null none { session := s } = done
  rcases done with ⟨f | vs, p⟩
  · rfl
  · rcases vs with _ | ⟨previous, _ | ⟨stored, _ | ⟨_, _⟩⟩⟩
    case cons.cons.nil =>
      dsimp only
      rw [Action.perform_bind, Action.perform_ofExcept]
      dsimp only [Except.bind, swapped]
      cases jsonOfReply previous <;> rfl
    all_goals rfl

/-- An exchange whose batch was executed answers with what the key held, if that can be read, and
leaves the key with the new text either way. -/
theorem Applied.exchanges {sent : List (List Bytes)} {outcome : Except Failure (List Value)}
    {q : Progress} (h : r.Applied (exchangeBuild key written meanwhile) s sent outcome q) :
    let others := (exchangeBuild key written meanwhile).outside q.builds s
    ∃ text, written = .ok text ∧
      outcome.bind swapped = (Entry.json (r.held key others)).map (·, true) ∧
      q.session.Alike (r.given key text others) := by
  intro others
  have hunraised := h.unraised
  rw [raised_exchangeBuild] at hunraised
  cases written with
  | error f => cases hunraised
  | ok text =>
    have hwire := h.wire
    have hanswer := h.answer
    have heffect := h.effect
    rw [queued_exchangeBuild] at hwire hanswer heffect
    rw [mapM_wire?_exchanged] at hwire
    cases hwire
    obtain ⟨hswapped, hsession⟩ := r.execute_exchanging key text others
    rw [hsession] at heffect
    exact ⟨text, rfl, by rw [hanswer]; exact hswapped, heffect⟩

/-- An exchange fails and leaves the session to others alone, or its batch is executed on what they
left. -/
theorem exchange_cases (r : TransactionRunner) (key : String) (written : Except Failure String)
    (meanwhile : Nat → List Interlude) (s : Session) :
    let build := exchangeBuild key written meanwhile
    let others := build.outside (r.run [key] build .null none { session := s }).2.builds s
    let done := (r.exchange key written meanwhile).perform s
    (∃ f, done.1 = .error f ∧ done.2.Alike others) ∨
    ∃ text, written = .ok text ∧ done.1 = (Entry.json (r.held key others)).map (·, true) ∧
      done.2.Alike (r.given key text others) := by
  intro build others done
  have hdone : done = _ := r.exchange_perform key written meanwhile s
  rw [hdone]
  obtain ⟨f, hf, halike⟩ | ⟨sent, _, _, happlied, -⟩ := r.run_applied_or_not [key] build .null none s
  · exact .inl ⟨f, congrArg (Except.bind · swapped) hf, halike⟩
  · exact .inr happlied.exchanges

/-- **An exchange that fails leaves everything to others, unless it overwrote what cannot be read.**
Whatever the key holds, whatever is to be written and whatever else goes wrong, a failure leaves the
databases as others alone left them, as long as the key held nothing or a JSON value when the exchange
read it. What cannot be read is noticed only after the batch, so the key has the new text by then. The
reader here follows brackets to any depth: for an interpreter whose stack a JSON value of a thousand
levels uses up, such a value is one that cannot be read. -/
theorem exchange_failure_spares_readable (r : TransactionRunner) (key : String)
    (written : Except Failure String) (meanwhile : Nat → List Interlude) (s : Session) (f : Failure)
    (failed : ((r.exchange key written meanwhile).perform s).1 = .error f) :
    let build := exchangeBuild key written meanwhile
    let others := build.outside (r.run [key] build .null none { session := s }).2.builds s
    let after := ((r.exchange key written meanwhile).perform s).2
    ((∃ v, Entry.json (r.held key others) = .ok v) → after.Alike others) ∧
    (after.Alike others ∨ ∃ text, written = .ok text ∧
      Entry.json (r.held key others) = .error f ∧ after.Alike (r.given key text others)) := by
  intro build others after
  obtain ⟨-, -, halike⟩ | ⟨text, hwritten, hanswer, halike⟩ := r.exchange_cases key written meanwhile s
  · exact ⟨fun _ => halike, .inl halike⟩
  · rw [failed] at hanswer
    cases hread : Entry.json (r.held key others) with
    | ok v =>
      rw [show Entry.json _ = _ from hread] at hanswer
      cases hanswer
    | error g =>
      rw [show Entry.json _ = _ from hread] at hanswer
      cases hanswer
      exact ⟨fun ⟨_, h⟩ => (nomatch h), .inr ⟨text, hwritten, rfl, halike⟩⟩

/-- Another client that writes a key in every attempt. -/
def rival : Nat → List Interlude := fun _ =>
  [.happening (.request [.text "SET", .text "k", .text "2"])]

/-- An exchange that loses every race leaves the key with what its rival wrote. -/
theorem exchange_overtaken :
    let r : TransactionRunner := { maxRetries := 1 }
    let done := (r.exchange "k" (.ok "1") rival).perform (.start true)
    done.1 = .error ((Failure.of (.transactionConflict ["k"] 1)).because changed) ∧
      r.held "k" done.2 = some (Entry.ofText "2") := by
  intro r done
  have failed : done.1 = .error ((Failure.of (.transactionConflict ["k"] 1)).because changed) := by
    rfl
  have halike := (exchange_failure_spares_readable r "k" (.ok "1") rival (.start true) _ failed).1
    ⟨.int 2, by rfl⟩
  refine ⟨failed, (held_alike halike).trans ?_⟩
  decide +kernel

/-- A key that holds no JSON value has the new text when the exchange fails. -/
theorem getAndSet_overwrites_unreadable :
    let r : TransactionRunner := {}
    let s := r.given "k" "abc" (.start true)
    let done := (r.getAndSet "k" (.int 1)).perform s
    r.held "k" s = some (Entry.ofText "abc") ∧ done.1.isOk = false ∧
      r.held "k" done.2 = some (Entry.ofText "1") := by
  decide +kernel

end TransactionRunner
end Leasehold

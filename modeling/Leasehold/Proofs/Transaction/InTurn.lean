import Leasehold.Proofs.Store.Arity
import Leasehold.Proofs.Text.Letter
import Leasehold.Proofs.Transaction.Setback

/-!
# Commands of a batch, one after the other

- **The reference** (`Request.alone`, `Request.inTurn`): requests that work on a database one after
  the other, where one that is refused has no effect.
- **Execution** (`TransactionRunner.execute_inTurn`): a batch leaves the same database behind, and its
  results are those of its requests in their order, or the first failure among them.
- **Batches** (`TransactionRunner.runBatch_in_turn`): so does a batch of commands that are all
  acceptable; one command that is not spoils it.
-/

namespace Leasehold

open Session

/-! ## The reference -/

/-- Whether an argument can be sent: a text, bytes, or a number that is not too long. -/
def Value.isSendable : Value → Bool
  | .text _ => true
  | .bytes _ => true
  | .int n => Numeral.isWritable n
  | .float _ => true
  | _ => false

namespace Request

/-- What a request with a place in a batch returns for a reply. -/
def returned (decodes : Bool) (place : Nat) (r : Request) :
    Except Refusal Reply → Except Failure Value
  | .error why => .error (.of (.refused (some place) why))
  | .ok reply =>
    match read decodes reply with
    | .error e => .error (.of (.undecodable e))
    | .ok v => .ok (converted r.givenName v)

/-- A request that works on a database alone: what it returns, and the database afterwards. A request
that is refused has no effect. -/
def alone (decodes : Bool) (now : Int) (place : Nat) (r : Request) (d : Store) :
    Except Failure Value × Store :=
  match r.wire? with
  | none => (.error (unsent [r]), d)
  | some words =>
    let e := (meaning words).run now d
    match e.reply with
    | .error why => (r.returned decodes place (.error why), d)
    | .ok reply => (r.returned decodes place (.ok reply), e.store)

/-- Requests that work on a database one after the other, of which the first has some place: what each of
them returns, and the database after the last. -/
def inTurn (decodes : Bool) (now : Int) (place : Nat) :
    List Request → Store → List (Except Failure Value) × Store
  | [], d => ([], d)
  | r :: rest, d =>
    let (outcome, d) := r.alone decodes now place d
    let (outcomes, d) := inTurn decodes now (place + 1) rest d
    (outcome :: outcomes, d)

variable {decodes : Bool} {now : Int}

theorem alone_eq {r : Request} {words : List Bytes} (h : r.wire? = some words) (place : Nat) (d : Store) :
    r.alone decodes now place d =
      (r.returned decodes place ((meaning words).run now d).reply, ((meaning words).run now d).store) := by
  unfold alone
  rw [h]
  dsimp only
  cases hreply : ((meaning words).run now d).reply with
  | error e =>
    rw [(Meaning.run_honest _).refused e hreply]
  | ok reply => rfl

/-- The first failure in a list of outcomes, or else all the values. -/
def firstFailure : List (Except Failure Value) → Except Failure (List Value)
  | [] => .ok []
  | .error f :: _ => .error f
  | .ok v :: rest => (firstFailure rest).map (v :: ·)

/-- The server works on the requests of a batch one after the other. If all replies can be read, their
results are what the requests return, or the first failure among that. -/
theorem runAll_inTurn {requests : List Request} {sent : List (List Bytes)}
    (hsent : requests.mapM wire? = some sent) (place : Nat) (d : Store)
    (legible : ∀ e, .error (.of (.undecodable e)) ∉ (inTurn decodes now place requests d).1) :
    let served := runAll now (sent.map meaning) d
    let turns := inTurn decodes now place requests d
    served.2 = turns.2 ∧ ∃ values, served.1.mapM (readOutcome decodes) = .ok values ∧
      results place requests values = firstFailure turns.1 := by
  induction requests generalizing sent place d with
  | nil =>
    rw [List.mapM_nil] at hsent
    cases hsent
    exact ⟨rfl, [], rfl, rfl⟩
  | cons r rest ih =>
    obtain ⟨words, more, hwords, hmore, rfl⟩ := mapM_cons_eq_some.mp hsent
    rw [inTurn, alone_eq hwords] at legible ⊢
    dsimp only at legible ⊢
    obtain ⟨hstore, values, hvalues, hresults⟩ := ih hmore (place + 1) _
      fun e h => legible e (List.mem_cons_of_mem _ h)
    rw [List.map_cons, runAll]
    refine ⟨hstore, ?_⟩
    dsimp only
    rw [List.mapM_cons, hvalues]
    cases hreply : ((meaning words).run now d).reply with
    | error why => exact ⟨.error why :: values, rfl, rfl⟩
    | ok reply =>
      cases hread : read decodes reply with
      | error e =>
        refine absurd ?_ (legible e)
        rw [hreply, returned, hread]
        exact List.mem_cons_self
      | ok v =>
        refine ⟨.ok v :: values, ?_, ?_⟩
        · rw [readOutcome, hread]
          rfl
        · rw [results, hresults, returned, hread, firstFailure]

/-- A client that does not decode replies reads all of them. -/
theorem read_bytes (reply : Reply) : ∃ v, read false reply = .ok v := by
  cases reply with
  | ok => exact ⟨_, rfl⟩
  | integer n => exact ⟨_, rfl⟩
  | bulk b => cases b <;> exact ⟨_, rfl⟩
  | bulks bs =>
    have hall : ∃ vs, bs.mapM (handedOn? false) = .ok vs := by
      induction bs with
      | nil => exact ⟨[], rfl⟩
      | cons b bs ih =>
        obtain ⟨vs, hvs⟩ := ih
        rw [List.mapM_cons, hvs]
        cases b <;> exact ⟨_, rfl⟩
    obtain ⟨vs, hvs⟩ := hall
    exact ⟨.list vs, by rw [read, hvs]; rfl⟩

theorem alone_bytes (place : Nat) (r : Request) (d : Store) (e : Utf8.DecodeError) :
    (r.alone false now place d).1 ≠ .error (.of (.undecodable e)) := by
  unfold alone
  cases r.wire? with
  | none =>
    dsimp only
    unfold unsent
    split <;> exact (nomatch ·)
  | some words =>
    dsimp only
    cases ((meaning words).run now d).reply with
    | error why => exact (nomatch ·)
    | ok reply =>
      obtain ⟨v, hv⟩ := read_bytes reply
      dsimp only
      rw [returned, hv]
      exact (nomatch ·)

theorem legible_bytes (requests : List Request) (place : Nat) (d : Store) (e : Utf8.DecodeError) :
    .error (.of (.undecodable e)) ∉ (inTurn false now place requests d).1 := by
  induction requests generalizing place d with
  | nil => exact List.not_mem_nil
  | cons r rest ih =>
    rw [inTurn, List.mem_cons, not_or]
    exact ⟨(alone_bytes place r d e).symm, ih _ _⟩

end Request

namespace TransactionRunner

variable {r : TransactionRunner} {s : Session} {commands : List (List Value)}

/-- What is executed returns what its requests return one after the other, or the first failure among
that, and leaves the same database behind. -/
theorem execute_inTurn (r : TransactionRunner) {requests : List Request} {sent : List (List Bytes)}
    (hsent : requests.mapM Request.wire? = some sent) (s : Session)
    (legible : r.client.decodes = true → ∀ e, .error (.of (.undecodable e)) ∉
      (Request.inTurn true s.clock 1 requests (s.database r.client.database)).1) :
    let turns := Request.inTurn r.client.decodes s.clock 1 requests (s.database r.client.database)
    (r.execute requests (sent.map Request.meaning)).perform s =
      (Request.firstFailure turns.1, s.withDatabase r.client.database turns.2) := by
  intro turns
  have hlegible : ∀ e, .error (.of (.undecodable e)) ∉ turns.1 := by
    intro e
    show _ ∉ (Request.inTurn r.client.decodes _ _ _ _).1
    cases hdecodes : r.client.decodes with
    | true => exact legible hdecodes e
    | false => exact Request.legible_bytes _ _ _ e
  obtain ⟨hstore, values, hvalues, hresults⟩ := Request.runAll_inTurn hsent 1 _ hlegible
  unfold execute
  rw [Action.perform_of]
  simp only [hvalues, hresults, hstore]
  rfl

/-! ## Commands -/

/-- The request that a command with its arguments makes. -/
def requestOf : List Value → Request
  | [] => []
  | name :: args => .text (commandName name) :: args

/-- A command with a name that can be written. -/
def Named : List Value → Prop
  | [] => False
  | name :: _ => name.isWritable = true

/-- A command that can be put into a batch: it has a name, its arguments can be sent, and the server
understands it. -/
structure Acceptable (command : List Value) : Prop where
  named : Named command
  sendable : ∀ v ∈ command.tail, v.isSendable = true
  understood : ∀ words ∈ (requestOf command).wire?, Request.Understood words

/-- A command without even a name. -/
def unnamed : Failure :=
  .plain .value "not enough values to unpack (expected at least 1, got 0)"

theorem queueing_of_named {command : List Value} (h : Named command) :
    queueing command = .queue (requestOf command) := by
  cases command with
  | nil => exact h.elim
  | cons name args => exact if_pos h

theorem queueing_of_not_named {command : List Value} (h : ¬ Named command) :
    ∃ f, queueing command = .raise f ∧ (f = unnamed ∨ f = .tooLong) := by
  cases command with
  | nil => exact ⟨_, rfl, .inl rfl⟩
  | cons name args => exact ⟨_, if_neg h, .inr rfl⟩

theorem raised_queueing (h : ∃ c ∈ commands, ¬ Named c) :
    ∃ f, Move.raised (commands.map queueing) = some f ∧ (f = unnamed ∨ f = .tooLong) := by
  induction commands with
  | nil =>
    obtain ⟨c, hc, -⟩ := h
    cases hc
  | cons c rest ih =>
    rw [List.map_cons]
    by_cases hc : Named c
    · rw [queueing_of_named hc]
      exact ih (by simpa [hc] using h)
    · obtain ⟨f, hf, hkinds⟩ := queueing_of_not_named hc
      rw [hf]
      exact ⟨f, rfl, hkinds⟩

theorem queued_queueing (h : ∀ c ∈ commands, Named c) :
    Move.raised (commands.map queueing) = none ∧
      Move.queued (commands.map queueing) = commands.map requestOf := by
  induction commands with
  | nil => exact ⟨rfl, rfl⟩
  | cons c rest ih =>
    obtain ⟨hraised, hqueued⟩ := ih fun c hc => h c (List.mem_cons_of_mem _ hc)
    rw [List.map_cons, queueing_of_named (h c List.mem_cons_self)]
    exact ⟨hraised, congrArg (_ :: ·) hqueued⟩

/-- Nothing else happens while commands are queued. -/
theorem outside_queueing (commands : List (List Value)) (s : Session) :
    Move.outside (commands.map queueing) s = ([], s) := by
  induction commands with
  | nil => rfl
  | cons c rest ih =>
    rw [List.map_cons]
    by_cases hc : Named c
    · rw [queueing_of_named hc]
      exact ih
    · obtain ⟨f, hf, -⟩ := queueing_of_not_named hc
      rw [hf]
      rfl

theorem argument?_eq_some_iff (v : Value) :
    (∃ b, Request.argument? v = some b) ↔ v.isSendable = true := by
  cases v <;> simp [Request.argument?, Value.isSendable]

theorem mapM_argument?_iff (args : List Value) :
    (∃ sent, args.mapM Request.argument? = some sent) ↔ ∀ v ∈ args, v.isSendable = true := by
  induction args with
  | nil => simp
  | cons v rest ih =>
    rw [List.forall_mem_cons, ← argument?_eq_some_iff, ← ih]
    simp only [mapM_cons_eq_some]
    exact ⟨fun ⟨_, b, bs, hb, hbs, _⟩ => ⟨⟨b, hb⟩, bs, hbs⟩,
      fun ⟨⟨b, hb⟩, bs, hbs⟩ => ⟨b :: bs, b, bs, hb, hbs, rfl⟩⟩

/-- A command with a name can be put into a batch if it can be sent and is not malformed. -/
theorem acceptable_iff {command : List Value} (named : Named command) :
    Acceptable command ↔
      ∃ words, (requestOf command).wire? = some words ∧ Request.meaning words ≠ .malformed := by
  cases command with
  | nil => exact named.elim
  | cons name args =>
  have hwire : (requestOf (name :: args)).wire? = (args.mapM Request.argument?).map
      (Request.words [] (Utf8.encode (commandName name)) ++ ·) := by
    show (args.mapM Request.argument?).bind _ = _
    cases args.mapM Request.argument? <;> rfl
  simp only [ne_eq, Request.meaning_eq_malformed_iff, not_not]
  constructor
  · rintro ⟨-, hsendable, hunderstood⟩
    obtain ⟨sent, hsent⟩ := (mapM_argument?_iff args).mpr hsendable
    have hwords := hwire
    rw [hsent] at hwords
    exact ⟨_, hwords, hunderstood _ hwords⟩
  · rintro ⟨words, hwords, hunderstood⟩
    refine ⟨named, (mapM_argument?_iff args).mp ?_, fun w hw => ?_⟩
    · rw [hwords] at hwire
      obtain ⟨sent, hsent, -⟩ := Option.map_eq_some_iff.mp hwire.symm
      exact ⟨sent, hsent⟩
    · rw [hwords] at hw
      exact Option.some.inj hw ▸ hunderstood

/-- All commands can be put into a batch if all are sent and none is malformed. -/
theorem all_acceptable_iff (named : ∀ c ∈ commands, Named c) :
    (∀ c ∈ commands, Acceptable c) ↔
      ∃ sent, (commands.map requestOf).mapM Request.wire? = some sent ∧
        .malformed ∉ sent.map Request.meaning := by
  rw [← Request.forall_known_iff, List.forall_mem_map]
  exact forall₂_congr fun c hc => acceptable_iff (named c hc)

/-! ## Batches -/

/-- A batch without watched keys that reaches the server is spoilt by one request, or executed. -/
theorem commit_unwatched (r : TransactionRunner) (d : Draft) (up : s.isUp = true)
    (reliable : s.Reliable .commit) :
    let t := (s.takeFault .commit).2
    (r.commit [] d).perform s =
      match d.requests.mapM Request.wire? with
      | none => (.error (Request.unsent d.requests), t)
      | some sent =>
        if .malformed ∈ sent.map Request.meaning then
          (.error (Request.spoilt (sent.map Request.meaning)), t)
        else (r.execute d.requests (sent.map Request.meaning)).perform t := by
  have hfault : (s.takeFault .commit).1 = none := Quiet.takeFault_none (.refl s) reliable
  have hup : (s.takeFault .commit).2.isUp = true := up
  unfold commit
  rw [Action.perform_of]
  generalize s.takeFault .commit = taken at hfault hup ⊢
  obtain ⟨f, t⟩ := taken
  obtain rfl : f = none := hfault
  replace hup : t.isUp = true := hup
  dsimp only
  rw [hup]
  cases hsent : d.requests.mapM Request.wire? with
  | none => rfl
  | some sent =>
    simp only [isDirty, List.any_nil, List.contains_iff_mem]
    rfl

/-- A failure with which a batch of commands may end. -/
inductive Ordinary : Failure → Prop where
  | unnamed : Ordinary unnamed
  | tooLong : Ordinary .tooLong
  | unsendable : Ordinary (.of .unsendable)
  | answered {f : Failure} (h : Answered f) : Ordinary f

theorem ordinary_unsent (requests : List Request) : Ordinary (Request.unsent requests) := by
  unfold Request.unsent
  split
  · exact .tooLong
  · exact .unsendable

theorem ordinary_spoilt (meanings : List Request.Meaning) : Ordinary (Request.spoilt meanings) :=
  .answered (.inl ⟨_, _, rfl⟩)

theorem Ordinary.kind {f : Failure} (h : Ordinary f) : f.kind ≠ .transactionConflict := by
  cases h with
  | unnamed | tooLong | unsendable => exact (nomatch ·)
  | answered h => exact h.ofRequest.noConflict

/-- Such a failure is neither put into other words nor tried again. -/
theorem Ordinary.settled {f : Failure} (h : Ordinary f) :
    f.surfaced "exec" (keyName []) = f ∧ f.isA .watch = false ∧ concluded [] f = f := by
  cases h with
  | unnamed | tooLong | unsendable => exact ⟨rfl, rfl, rfl⟩
  | answered h => exact ⟨h.surfaced .., h.ofRequest.unwatched, h.ofRequest.concluded []⟩

theorem commit_ordinary (r : TransactionRunner) (d : Draft) (up : s.isUp = true)
    (reliable : s.Reliable .commit) {f : Failure} (h : ((r.commit [] d).perform s).1 = .error f) :
    Ordinary f := by
  rw [r.commit_unwatched d up reliable] at h
  split at h
  · cases h
    exact ordinary_unsent _
  · split at h
    · cases h
      exact ordinary_spoilt _
    · exact .answered (execute_error h)

/-- Batches run once. -/
theorem begun_once (r : TransactionRunner) (build : Build) (start : Progress) :
    r.begun [] build (.int 1) none start = [(1, start)] := rfl

/-- A batch with a command that has no name raises that, and nothing else happens. -/
theorem run_unnamed (r : TransactionRunner) (s : Session) (h : ∃ c ∈ commands, ¬ Named c) :
    ∃ f, Ordinary f ∧ r.run [] (fun _ => commands.map queueing) (.int 1) none { session := s } =
      (.error f, { session := s, builds := 1 }) := by
  obtain ⟨f, hraised, hkinds⟩ := raised_queueing h
  have hordinary : Ordinary f := by
    obtain rfl | rfl := hkinds
    · exact .unnamed
    · exact .tooLong
  refine ⟨f, hordinary, run_of_outcome (r.begun_once _ _ ▸ List.mem_singleton_self _) ?_ ?_⟩
  · rw [attempt_eq_of_reached (fun h => absurd rfl h), hraised, built, outside_queueing]
    rfl
  · rintro _ ⟨⟩
    exact hordinary.settled.2

/-- The run of a batch commits its commands, if they all have names. -/
theorem run_named (r : TransactionRunner) (up : s.isUp = true) (reliable : s.Reliable .commit)
    (named : ∀ c ∈ commands, Named c) (nonempty : commands ≠ []) :
    let done := (r.commit [] ⟨commands.map requestOf, []⟩).perform s
    r.run [] (fun _ => commands.map queueing) (.int 1) none { session := s } =
      (done.1, { session := done.2, builds := 1 }) := by
  intro done
  have hordinary : ∀ f, done.1 = .error f → Ordinary f :=
    fun f => r.commit_ordinary ⟨commands.map requestOf, []⟩ up reliable
  obtain ⟨hraised, hqueued⟩ := queued_queueing named
  refine run_of_outcome (r.begun_once _ _ ▸ List.mem_singleton_self _) ?_
    fun f hf => (hordinary f hf).settled.2
  have hbatch : batch [] (fun _ => commands.map queueing) { session := s } =
      ⟨commands.map requestOf, []⟩ := by
    rw [batch, outside_queueing, hqueued]
  have hbuilt : built [] (fun _ => commands.map queueing) { session := s } = s := by
    rw [built, outside_queueing]
    rfl
  have hempty : (commands.map requestOf).isEmpty = false := by
    rw [List.isEmpty_eq_false_iff]
    exact fun h => nonempty (List.map_eq_nil_iff.mp h)
  rw [attempt_eq_of_reached (fun h => absurd rfl h), hraised]
  simp only [hbatch, hbuilt, hempty]
  show (done.1.mapError _, _) = _
  cases hdone : done.1 with
  | ok vs => rfl
  | error f =>
    show (Except.error (f.surfaced _ _), _) = _
    rw [(hordinary f hdone).settled.1]

/-- Two spellings of a command: the names differ at most in the size of their ASCII letters. -/
inductive Respelt : List Value → List Value → Prop where
  | same (command : List Value) : Respelt command command
  | name {a b : String} (h : a.toLower = b.toLower) (args : List Value) :
      Respelt (.text a :: args) (.text b :: args)

theorem Respelt.queueing {c d : List Value} (h : Respelt c d) : queueing c = queueing d := by
  cases h with
  | same => rfl
  | name h args =>
    show Move.queue (.text (Text.toCapital _) :: args) = Move.queue (.text (Text.toCapital _) :: args)
    rw [Text.toCapital_of_toLower h]

theorem queueing_respelt {others : List (List Value)} (h : List.Forall₂ Respelt commands others) :
    commands.map queueing = others.map queueing := by
  induction h with
  | nil => rfl
  | cons h _ ih => rw [List.map_cons, List.map_cons, h.queueing, ih]

/-- A batch with a command that cannot be put into one has no effect. -/
theorem run_unacceptable (r : TransactionRunner) (up : s.isUp = true) (reliable : s.Reliable .commit)
    (bad : ∃ c ∈ commands, ¬ Acceptable c) :
    ∃ f t, r.run [] (fun _ => commands.map queueing) (.int 1) none { session := s } =
      (.error f, { session := t, builds := 1 }) ∧ Ordinary f ∧ t.Alike s := by
  by_cases hnamed : ∀ c ∈ commands, Named c
  · have hnonempty : commands ≠ [] := by
      rintro rfl
      obtain ⟨_, hc, -⟩ := bad
      cases hc
    have hbad : ¬ ∀ c ∈ commands, Acceptable c := by
      obtain ⟨c, hc, hna⟩ := bad
      exact fun h => hna (h c hc)
    rw [r.run_named up reliable hnamed hnonempty, r.commit_unwatched _ up reliable]
    rw [all_acceptable_iff hnamed] at hbad
    dsimp only
    cases hsent : (commands.map requestOf).mapM Request.wire? with
    | none => exact ⟨_, _, rfl, ordinary_unsent _, takeFault_alike s .commit⟩
    | some sent =>
      have hspoilt : .malformed ∈ sent.map Request.meaning := by
        by_contra h
        exact hbad ⟨sent, hsent, h⟩
      dsimp only
      rw [if_pos hspoilt]
      exact ⟨_, _, rfl, ordinary_spoilt _, takeFault_alike s .commit⟩
  · obtain ⟨f, hordinary, hrun⟩ := r.run_unnamed s (by simpa using hnamed)
    exact ⟨f, s, hrun, hordinary, .refl s⟩

/-- A batch of commands that are all acceptable does what they do one after the other. -/
theorem run_acceptable (r : TransactionRunner) (up : s.isUp = true) (reliable : s.Reliable .commit)
    (legible : r.client.decodes = true → ∀ e, .error (.of (.undecodable e)) ∉
      (Request.inTurn true s.clock 1 (commands.map requestOf) (s.database r.client.database)).1)
    (good : ∀ c ∈ commands, Acceptable c) :
    let turns := Request.inTurn r.client.decodes s.clock 1 (commands.map requestOf)
      (s.database r.client.database)
    ∃ t, r.run [] (fun _ => commands.map queueing) (.int 1) none { session := s } =
      (Request.firstFailure turns.1, { session := t, builds := 1 }) ∧
      (∀ f, Request.firstFailure turns.1 = .error f → Ordinary f) ∧
      t.Alike (s.withDatabase r.client.database turns.2) := by
  intro turns
  have hnamed : ∀ c ∈ commands, Named c := fun c hc => (good c hc).named
  by_cases hnonempty : commands = []
  · subst hnonempty
    exact ⟨s, rfl, fun _ h => (nomatch h), (withDatabase_alike rfl).symm⟩
  · obtain ⟨sent, hsent, hknown⟩ := (all_acceptable_iff hnamed).mp good
    have halike := takeFault_alike s .commit
    have hexecute := r.execute_inTurn hsent (s.takeFault .commit).2 legible
    have hrun := r.run_named up reliable hnamed hnonempty
    have hcommit := r.commit_unwatched ⟨commands.map requestOf, []⟩ up reliable
    dsimp only at hcommit
    rw [hsent] at hcommit
    dsimp only at hcommit
    rw [if_neg hknown, hexecute] at hcommit
    refine ⟨_, by rw [hrun, hcommit]; rfl, fun f hf => ?_, halike.withDatabase _ _⟩
    exact r.commit_ordinary ⟨commands.map requestOf, []⟩ up reliable (by rw [hcommit]; exact hf)

/-- **A batch of commands does what they do one after the other.** On a server that is up, with no
failure arranged for the commit, and with replies that can be read: a batch in which a command has no
name that can be written, an argument cannot be sent, or the name or the number of arguments is wrong
raises a failure and has no effect. Any other batch leaves the database as its commands leave it one
after the other, where one that is refused has no effect, and it returns what they return, in their
order, or the first failure among that. A batch is built once and never ends in a conflict; the size of
ASCII letters in the names of its commands does not matter; and no commands have no results. -/
theorem runBatch_in_turn (r : TransactionRunner) (commands : List (List Value)) (s : Session)
    (up : s.isUp = true) (reliable : s.Reliable .commit)
    (legible : r.client.decodes = true → ∀ e, .error (.of (.undecodable e)) ∉
      (Request.inTurn true s.clock 1 (commands.map requestOf) (s.database r.client.database)).1) :
    let turns := Request.inTurn r.client.decodes s.clock 1 (commands.map requestOf)
      (s.database r.client.database)
    let build : Build := fun _ => commands.map queueing
    let start : Progress := { session := s }
    let done := (r.runBatch commands).perform s
    ((∃ c ∈ commands, ¬ Acceptable c) → (∃ f, done.1 = .error f) ∧ done.2.Alike s) ∧
    ((∀ c ∈ commands, Acceptable c) → done.1 = Request.firstFailure turns.1 ∧
      done.2.Alike (s.withDatabase r.client.database turns.2)) ∧
    (r.begun [] build (.int 1) none start = [(1, start)] ∧
      (r.run [] build (.int 1) none start).2.builds = 1) ∧
    (∀ f, done.1 = .error f → f.kind ≠ .transactionConflict) ∧
    (∀ others, List.Forall₂ Respelt commands others → (r.runBatch others).perform s = done) ∧
    (r.runBatch []).perform s = (.ok [], s) := by
  intro turns build start done
  have hdone : done = ((r.run [] build (.int 1) none start).1,
    (r.run [] build (.int 1) none start).2.session) := rfl
  have hrespelt : ∀ others, List.Forall₂ Respelt commands others →
      (r.runBatch others).perform s = done := by
    intro others h
    show (r.runPlain [] (fun _ => others.map queueing) (.int 1)).perform s = _
    rw [← queueing_respelt h]
    rfl
  by_cases hgood : ∀ c ∈ commands, Acceptable c
  · obtain ⟨t, hrun, hordinary, halike⟩ := r.run_acceptable up reliable legible hgood
    rw [hrun] at hdone
    rw [hdone, hrun]
    exact ⟨fun ⟨c, hc, hbad⟩ => absurd (hgood c hc) hbad, fun _ => ⟨rfl, halike⟩,
      ⟨r.begun_once build start, rfl⟩, fun f hf => (hordinary f hf).kind, hdone ▸ hrespelt, rfl⟩
  · obtain ⟨c, hc, hbad⟩ : ∃ c ∈ commands, ¬ Acceptable c := by simpa using hgood
    obtain ⟨f, t, hrun, hordinary, halike⟩ := r.run_unacceptable up reliable ⟨c, hc, hbad⟩
    rw [hrun] at hdone
    rw [hdone, hrun]
    refine ⟨fun _ => ⟨⟨f, rfl⟩, halike⟩, fun h => absurd (h c hc) hbad,
      ⟨r.begun_once build start, rfl⟩, ?_, hdone ▸ hrespelt, rfl⟩
    rintro _ ⟨⟩
    exact hordinary.kind

/-- Stores a text, reads it and counts something up. -/
def fewCommands : List (List Value) := [
  [.text "set", .text "k1", .text "v1"], [.text "GET", .text "k1"], [.text "incr", .text "hits"]]

theorem acceptable_fewCommands : ∀ c ∈ fewCommands, Acceptable c := by
  unfold fewCommands
  simp only [List.forall_mem_cons]
  have named (name : String) (args : List Value) : Named (.text name :: args) := rfl
  exact ⟨(acceptable_iff (named ..)).mpr ⟨_, rfl, by decide +kernel⟩,
    (acceptable_iff (named ..)).mpr ⟨_, rfl, by decide +kernel⟩,
    (acceptable_iff (named ..)).mpr ⟨_, rfl, by decide +kernel⟩, fun _ h => absurd h List.not_mem_nil⟩

/-- The few commands return what they do one after the other. -/
theorem runBatch_fewCommands :
    let r : TransactionRunner := {}
    let done := (r.runBatch fewCommands).perform (.start true)
    done.1 = .ok [.bool true, .text "v1", .int 1] ∧
      (done.2.database 0).find? (Utf8.encode "hits") = some ⟨.string (Utf8.encode "1"), none⟩ := by
  intro r done
  have houtcomes : (Request.inTurn true Session.epoch 1 (fewCommands.map requestOf) .empty).1 =
      [.ok (.bool true), .ok (.text "v1"), .ok (.int 1)] := by
    rfl
  have legible : r.client.decodes = true → ∀ e, .error (.of (.undecodable e)) ∉
      (Request.inTurn true Session.epoch 1 (fewCommands.map requestOf) .empty).1 := by
    intro _ e
    rw [houtcomes]
    simp
  obtain ⟨-, h, -⟩ := runBatch_in_turn r fewCommands (.start true) rfl
    (fun _ h => absurd h List.not_mem_nil) legible
  obtain ⟨hresults, halike⟩ := h acceptable_fewCommands
  refine ⟨hresults.trans (congrArg Request.firstFailure houtcomes), ?_⟩
  rw [halike.database]
  decide +kernel

end TransactionRunner
end Leasehold

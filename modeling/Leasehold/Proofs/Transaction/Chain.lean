import Leasehold.Proofs.Json.Nested
import Leasehold.Proofs.Transaction.Exchange

/-!
# Chains of exchanges

Exchanges of one key, one after the other, while others leave the key alone.

- **One exchange** (`TransactionRunner.exchange_undisturbed`) that nobody disturbs is done in its first
  attempt: it answers with what the key held and leaves it with the new text.
- **A chain** (`TransactionRunner.swapAll_returns_previous`): each exchange answers with the value of the
  one before, since plain values are read back as they were written.
-/

namespace Leasehold

open Session

namespace Interlude

/-- What others do, one after the other: the databases and keys that they touch, and the session
afterwards. -/
def all (interludes : List Interlude) (s : Session) : List (Int × Bytes) × Session :=
  Move.outside (interludes.map Interlude.move) s

/-- Others do something and leave a key alone, and the server stays up. -/
structure Leave (n : Int) (k : Bytes) (s : Session) (interludes : List Interlude) : Prop where
  untouched : (n, k) ∉ (all interludes s).1
  staysUp : .happening (.server false) ∉ interludes

theorem Leave.moves {n : Int} {k : Bytes} {interludes : List Interlude} {s : Session}
    (h : Leave n k s interludes) : .happening (.server false) ∉ interludes.map Interlude.move := by
  intro hmem
  obtain ⟨i, hi, heq⟩ := List.mem_map.mp hmem
  cases i with
  | happening hp =>
    cases heq
    exact h.staysUp hi
  | pass ms => cases heq

end Interlude

/-- An exchange in a chain: its value, what others do in each of its attempts, and what they do after
it. -/
structure Swap where
  value : Json
  meanwhile : Nat → List Interlude := fun _ => []
  afterwards : List Interlude := []

namespace TransactionRunner

variable {r : TransactionRunner} {key text : String} {s t : Session}
  {meanwhile : Nat → List Interlude}

/-- Exchanges of one key, one after the other, with their answers. An exchange in which nobody does
anything meanwhile is `getAndSet`. -/
def swapAll (r : TransactionRunner) (key : String) : List Swap → Action (List (Json × Bool))
  | [] => return []
  | swap :: rest => do
    let answer ← r.exchange key (textOf swap.value) swap.meanwhile
    Action.of fun s => (.ok (), (Interlude.all swap.afterwards s).2)
    let answers ← r.swapAll key rest
    return answer :: answers

/-- Others leave the key alone in the first attempt of every exchange of a chain, and between them. -/
def Undisturbed (r : TransactionRunner) (key : String) : List Swap → Session → Prop
  | [], _ => True
  | swap :: rest, s =>
    let n := r.client.database
    let t := ((r.exchange key (textOf swap.value) swap.meanwhile).perform s).2
    Interlude.Leave n (Utf8.encode key) s (swap.meanwhile 1) ∧
      Interlude.Leave n (Utf8.encode key) t swap.afterwards ∧
      r.Undisturbed key rest (Interlude.all swap.afterwards t).2

/-! ## One exchange -/

theorem proper_exchangeBuild {number : Nat}
    (h : .happening (.server false) ∉ (meanwhile number).map Interlude.move) :
    Proper (exchangeBuild key (.ok text) meanwhile number) := by
  refine ⟨raised_exchangeBuild number, ?_, ?_, ?_⟩
  · intro hmem
    obtain hmem | hmem := List.mem_append.mp hmem
    · exact h hmem
    · simp [exchanging] at hmem
  · rw [queued_exchangeBuild]
    exact List.cons_ne_nil _ _
  · rw [queued_exchangeBuild]
    intro request hr
    obtain rfl | hr := List.mem_cons.mp hr
    · exact ⟨_, wire?_reading key, by rw [meaning_reading]; exact (nomatch ·)⟩
    · rw [List.mem_singleton.mp hr]
      exact ⟨_, wire?_writing key text, by rw [meaning_writing]; exact (nomatch ·)⟩

/-- An exchange during which others leave the key alone is done in its first attempt. -/
theorem exchange_undisturbed (text : String) (allowed : 1 ≤ r.maxRetries) (staysUp : s.StaysUp)
    (watches : s.Reliable .watch) (commits : s.Reliable .commit)
    (left : Interlude.Leave r.client.database (Utf8.encode key) s (meanwhile 1)) :
    let others := (Interlude.all (meanwhile 1) s).2
    let done := (r.exchange key (.ok text) meanwhile).perform s
    done.1 = (Entry.json (r.held key others)).map (·, true) ∧
      done.2.Alike (r.given key text others) ∧ Quiet s done.2 := by
  intro others done
  let build := exchangeBuild key (.ok text) meanwhile
  have hdone : done = _ := r.exchange_perform key (.ok text) meanwhile s
  have hbudget : Retry.budget (r.allowance .null) = .ok r.maxRetries.toNat := if_pos allowed
  have hbegun : (1, { session := s }) ∈ r.begun [key] build .null none { session := s } :=
    begun_start hbudget _
  have hdetects : r.Detects [key] build s { session := s } _ _ :=
    attempt_detects watches commits staysUp (proper_exchangeBuild left.moves) (.refl s)
  have hclean : r.Clean [key] build s 1 := by
    intro k hk
    rw [List.mem_singleton.mp hk]
    show _ ∉ (Move.outside (build 1) s).1
    rw [outside_exchangeBuild]
    exact left.untouched
  obtain ⟨hdirty, -⟩ | ⟨-, sent, happlied⟩ := hdetects.verdict
  · exact absurd hclean hdirty
  · have hrun := run_of_applied hbegun rfl happlied
    have hothers : build.outside 1 s = others := by
      show (Move.outside (build 1) s).2 = _
      rw [outside_exchangeBuild]
      rfl
    obtain ⟨_, htext, hanswer, halike⟩ := happlied.exchanges
    cases htext
    rw [hdetects.builds] at hanswer halike
    rw [show build.outside _ s = _ from hothers] at hanswer halike
    rw [hdone]
    dsimp only
    rw [hrun]
    exact ⟨hanswer, halike, hdetects.quiet⟩

/-! ## Chains -/

theorem swapAll_cons (r : TransactionRunner) (key : String) (swap : Swap) (rest : List Swap)
    (s : Session) {answer : Json × Bool} {t : Session}
    (h : (r.exchange key (textOf swap.value) swap.meanwhile).perform s = (.ok answer, t)) :
    (r.swapAll key (swap :: rest)).perform s =
      let done := (r.swapAll key rest).perform (Interlude.all swap.afterwards t).2
      (done.1.map (answer :: ·), done.2) := by
  rw [swapAll, Action.perform_bind, h]
  dsimp only
  rw [Action.perform_bind, Action.perform_of]
  dsimp only
  rw [Action.perform_bind_pure]

theorem textOf_plain {v : Json} (h : v.Plain) : textOf v = .ok v.render := if_pos h.isWritable

/-- An entry that holds the text of a plain value is read back as that value, and no entry as null. -/
theorem json_of_datum {e : Option Entry} {v : Option Json} (plain : ∀ w ∈ v, w.Plain)
    (h : e.map (·.datum) = v.map fun w => .string (Utf8.encode w.render)) :
    Entry.json e = .ok (v.getD .null) := by
  cases v with
  | none =>
    rw [Option.map_eq_none_iff.mp h]
    rfl
  | some w =>
    obtain ⟨⟨datum, deadline⟩, rfl, hdatum⟩ := Option.map_eq_some_iff.mp h
    obtain rfl : datum = _ := hdatum
    unfold Entry.json
    simp only [Utf8.decode_encode, jsonOf, (plain w rfl).readBack.parse_render]
    rfl

/-- A text that was written is there at any instant. -/
theorem live_ofText {d : Store} {k : Bytes} {text : String}
    (h : d.find? k = some (Entry.ofText text)) (now : Int) :
    d.live now k = some (Entry.ofText text) := by
  rw [Store.live, h]
  rfl

/-- What an exchange that nobody disturbs leaves for the next one. -/
structure Passed (r : TransactionRunner) (key text : String) (s t : Session) : Prop where
  staysUp : t.StaysUp
  quiet : Quiet s t
  entry : (t.database r.client.database).find? (Utf8.encode key) = some (Entry.ofText text)

theorem Passed.held (h : r.Passed key text s t) : r.held key t = some (Entry.ofText text) :=
  live_ofText h.entry t.clock

/-- An exchange of a chain answers with the value that the key held, and the next one finds its text. -/
theorem exchange_passes {previous : Option Json} {v : Json} {afterwards : List Interlude}
    (allowed : 1 ≤ r.maxRetries) (staysUp : s.StaysUp) (watches : s.Reliable .watch)
    (commits : s.Reliable .commit) (plain : ∀ v ∈ previous, v.Plain) (hv : v.Plain)
    (found : (r.held key s).map (·.datum) = previous.map fun v => .string (Utf8.encode v.render))
    (lasting : (s.database r.client.database).live (Interlude.all (meanwhile 1) s).2.clock
      (Utf8.encode key) = r.held key s)
    (left : Interlude.Leave r.client.database (Utf8.encode key) s (meanwhile 1))
    (later : Interlude.Leave r.client.database (Utf8.encode key)
      ((r.exchange key (textOf v) meanwhile).perform s).2 afterwards) :
    let done := (r.exchange key (textOf v) meanwhile).perform s
    done.1 = .ok (previous.getD .null, true) ∧
      r.Passed key v.render s (Interlude.all afterwards done.2).2 := by
  rw [textOf_plain hv] at later ⊢
  intro done
  obtain ⟨hanswer, halike, hquiet⟩ :=
    exchange_undisturbed v.render allowed staysUp watches commits left
  -- Nothing touched the key and its entry did not run out, so the exchange read what was found.
  have hheld : r.held key (Interlude.all (meanwhile 1) s).2 = r.held key s := by
    rw [← lasting]
    exact congrArg (Option.filter _) (Move.find?_outside left.untouched)
  rw [hheld, json_of_datum plain found] at hanswer
  have hup : done.2.StaysUp := by
    have hothers := Move.outside_staysUp staysUp left.moves
    exact ⟨halike.isUp.trans hothers.isUp, fun e he => hothers.events e (halike.events ▸ he)⟩
  refine ⟨hanswer, Move.outside_staysUp hup later.moves, hquiet.trans (outside_quiet ..), ?_⟩
  rw [Interlude.all, Move.find?_outside later.untouched, halike.database, given,
    database_withDatabase_self, Store.find?_put, if_pos rfl]

/-- **Exchanges form a chain of JSON values.** On a server that stays up, while others leave the key
alone, each of several exchanges answers with the value that the one before it stored, and the first
with what the key held when it was called, or with null. The text of the last value stays behind
without a deadline, and that value is read back from it. -/
theorem swapAll_returns_previous (r : TransactionRunner) (key : String) (swaps : List Swap)
    (s : Session) (previous : Option Json) (allowed : 1 ≤ r.maxRetries) (staysUp : s.StaysUp)
    (watches : s.Reliable .watch) (commits : s.Reliable .commit)
    (plain : ∀ v ∈ previous, v.Plain) (plains : ∀ swap ∈ swaps, swap.value.Plain)
    (found : (r.held key s).map (·.datum) = previous.map fun v => .string (Utf8.encode v.render))
    (lasting : ∀ swap ∈ swaps.head?, (s.database r.client.database).live
      (Interlude.all (swap.meanwhile 1) s).2.clock (Utf8.encode key) = r.held key s)
    (undisturbed : r.Undisturbed key swaps s) :
    let done := (r.swapAll key swaps).perform s
    done.1 = .ok (((previous.getD .null :: swaps.map (·.value)).dropLast).map (·, true)) ∧
      ∀ swap ∈ swaps.getLast?, r.held key done.2 = some (Entry.ofText swap.value.render) ∧
        Entry.json (r.held key done.2) = .ok swap.value := by
  induction swaps generalizing s previous with
  | nil => exact ⟨rfl, fun _ h => nomatch h⟩
  | cons swap rest ih =>
    obtain ⟨left, later, hrest⟩ := undisturbed
    have hv := plains swap List.mem_cons_self
    obtain ⟨hanswer, hpassed⟩ := exchange_passes allowed staysUp watches commits plain hv found
      (lasting swap rfl) left later
    have hswapAll := r.swapAll_cons key swap rest s (Prod.ext hanswer rfl)
    generalize (Interlude.all swap.afterwards
      ((r.exchange key (textOf swap.value) swap.meanwhile).perform s).2).2 = t at hpassed hrest hswapAll
    obtain ⟨hanswers, hlast⟩ := ih t (some swap.value) hpassed.staysUp
      (fun f hf => watches f (hpassed.quiet.faults _ hf))
      (fun f hf => commits f (hpassed.quiet.faults _ hf))
      (fun v h => Option.some.inj h ▸ hv)
      (fun swap h => plains swap (List.mem_cons_of_mem _ h)) (by rw [hpassed.held]; rfl)
      (fun _ _ => (live_ofText hpassed.entry _).trans hpassed.held.symm) hrest
    rw [hswapAll]
    refine ⟨?_, ?_⟩
    · dsimp only
      rw [hanswers]
      rfl
    · cases rest with
      | nil =>
        intro last hl
        obtain rfl : swap = last := Option.some.inj hl
        have hheld : r.held key t = _ := hpassed.held
        exact ⟨hheld, by
          rw [show r.held key ((r.swapAll key []).perform t).2 = _ from hheld]
          exact json_of_datum (v := some swap.value) (fun v h => Option.some.inj h ▸ hv) rfl⟩
      | cons _ _ => exact hlast

/-- A profile and a list, while another client counts something else up. -/
def profiles : List Swap := [
  { value := .object [(CodePoint.ofString "name", .text "ada")]
    meanwhile := fun _ => [.happening (.request [.text "INCR", .text "n"])] },
  { value := .array [.int 1, .int (-2)] }]

theorem plain_profiles : ∀ swap ∈ profiles, swap.value.Plain := by
  intro swap hswap
  simp only [profiles, List.mem_cons, List.not_mem_nil, or_false] at hswap
  rcases hswap with rfl | rfl
  · refine .object ?_ ?_ (by decide)
    all_goals rw [List.forall_mem_singleton]
    · exact Json.areCharacters_ofString "name"
    · exact .string (Json.areCharacters_ofString "ada")
  · refine .array (List.forall_mem_cons.mpr ⟨.int ?_, List.forall_mem_singleton.mpr (.int ?_)⟩)
    all_goals decide

/-- Each answer of the chain of profiles is what was stored before it. -/
theorem swapAll_profiles :
    let r : TransactionRunner := { client := { decodes := false } }
    let done := (r.swapAll "profile" profiles).perform (.start true)
    done.1 = .ok [(.null, true), (.object [(CodePoint.ofString "name", .text "ada")], true)] ∧
      Entry.json (r.held "profile" done.2) = .ok (.array [.int 1, .int (-2)]) := by
  intro r done
  have undisturbed : r.Undisturbed "profile" profiles (.start true) :=
    ⟨⟨by decide +kernel, by simp⟩, ⟨by decide +kernel, by simp⟩,
      ⟨by decide +kernel, by simp⟩, ⟨by decide +kernel, by simp⟩, trivial⟩
  obtain ⟨hanswers, hlast⟩ := swapAll_returns_previous r "profile" profiles (.start true) none
    (by decide) ⟨rfl, fun _ h => absurd h List.not_mem_nil⟩ (fun _ h => absurd h List.not_mem_nil)
    (fun _ h => absurd h List.not_mem_nil) (fun _ h => nomatch h) plain_profiles rfl
    (fun _ _ => rfl) undisturbed
  exact ⟨hanswers, (hlast _ rfl).2⟩

end TransactionRunner
end Leasehold

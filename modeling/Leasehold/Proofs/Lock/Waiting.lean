import Leasehold.Proofs.Lock.Operation

/-!
# Waiting follows its schedule

Waiting for a lock is trying to take it at fixed instants (`LockManager.tryAt`): at once, after each
interval, and when the time is up, until a try takes the lock or fails.

- **The loop** (`LockManager.poll_eq`) makes its tries at the instants of the schedule
  (`LockManager.pollInstants`), whatever happens meanwhile. With an interval that its clock cannot count
  it makes one try, and then fails if there is time left (`LockManager.stopped`).
- **The tries** (`LockManager.tryAt_polled`): each meets the session as others alone would have left
  it, since a try that finds the lock taken changes nothing.
- **The wait** (`LockManager.wait_eq`): the loop, by the times that the caller asks for, if the clock can
  count them (`LockManager.waitPlan`). Its answer is that of its last try (`LockManager.wait_took`).
- **The schedule** (`LockManager.wait_follows_schedule`): how a wait by an exact clock ends, and what it
  leaves. A wait by seconds in floating point is the same if both of its times can be counted.
-/

namespace Leasehold

open Session

/-! ## Timers -/

theorem Timer.seconds_error {ms : Nat} {f : Failure} (h : seconds ms = .error f) :
    f = overflow ∧ ¬ seconds.Counts ms := by
  unfold Counts
  rw [h]
  unfold seconds at h
  split at h
  · cases h
  · cases h
    exact ⟨rfl, nofun⟩

/-- A pace fails when the clock cannot count its interval. -/
theorem Timer.error_of_pace {timer : Timer} {interval : Period} {f : Failure}
    (h : (timer interval.val).map (fun _ => interval) = .error f) : timer interval.val = .error f := by
  cases hcount : timer interval.val with
  | ok => rw [hcount] at h; cases h
  | error g => rw [hcount] at h; cases h; rfl

/-! ## Schedules -/

/-- Some tries to take a lock: the sessions in which they were made, how the last one ended, and the
session after it. -/
structure Trial where
  tries : List Session
  outcome : Except Failure Bool
  session : Session

namespace LockManager

variable (m : LockManager) (key token : String) (ttl : Period)

/-- Tries to take a lock now, and again at each of some later instants as long as it is answered
that somebody holds it. -/
def tryAt : List Int → Session → Trial
  | [], s =>
    let (outcome, s') := (m.take key token ttl).perform s
    ⟨[s], outcome, s'⟩
  | instant :: later, s =>
    match (m.take key token ttl).perform s with
    | (.ok false, s') =>
      let rest := tryAt later (s'.passTo instant)
      { rest with tries := s :: rest.tries }
    | (outcome, s') => ⟨[s], outcome, s'⟩

/-- The instants at which waiting tries again: after each interval, and when the time is up. -/
def pollInstants (start : Int) (interval : Period) (timeout : Nat) : List Int :=
  (List.range (timeout ⌈/⌉ interval.val)).map fun i =>
    start + (min ((i + 1) * interval.val) timeout : Nat)

/-! ## The loop -/

theorem pollInstants_zero (start : Int) (interval : Period) : pollInstants start interval 0 = [] := by
  simp [pollInstants]

theorem ceilDiv_succ {a b : Nat} (hb : 0 < b) (ha : 0 < a) : a ⌈/⌉ b = (a - min b a) ⌈/⌉ b + 1 := by
  rw [Nat.ceilDiv_eq_add_pred_div, Nat.ceilDiv_eq_add_pred_div]
  obtain h | h := Nat.le_total b a
  · rw [Nat.min_eq_left h, ← Nat.add_div_right _ hb]
    congr 1; omega
  · rw [Nat.min_eq_right h, Nat.sub_self, Nat.zero_add, Nat.div_eq_of_lt (a := b - 1) (by omega),
      Nat.div_eq_of_lt_le] <;> omega

/-- The first of the instants, and the schedule from there. -/
theorem pollInstants_pos (start : Int) (interval : Period) {timeout : Nat} (h : 0 < timeout) :
    pollInstants start interval timeout =
      (start + (min interval.val timeout : Nat)) ::
        pollInstants (start + (min interval.val timeout : Nat)) interval
          (timeout - min interval.val timeout) := by
  unfold pollInstants
  rw [ceilDiv_succ interval.property h, List.range_succ_eq_map, List.map_cons, List.map_map]
  congr 1
  · rw [Nat.zero_add, Nat.one_mul]
  · refine List.map_congr_left fun i _ => ?_
    simp only [Function.comp_apply, Nat.succ_eq_add_one]
    rw [Int.add_assoc, ← Int.natCast_add]
    congr 2
    have := Nat.add_mul (i + 1) 1 interval.val
    omega

theorem pollInstants_sorted (start : Int) (interval : Period) (timeout : Nat) :
    (start :: pollInstants start interval timeout).Pairwise (· ≤ ·) := by
  unfold pollInstants
  refine List.pairwise_cons.mpr ⟨fun t ht => ?_, ?_⟩
  · obtain ⟨i, -, rfl⟩ := List.mem_map.mp ht
    omega
  · refine List.pairwise_map.mpr (List.pairwise_lt_range.imp fun {i j} hij => ?_)
    have hle : (i + 1) * interval.val ≤ (j + 1) * interval.val :=
      Nat.mul_le_mul_right _ (Nat.succ_le_succ (Nat.le_of_lt hij))
    exact Int.add_le_add_left (Int.ofNat_le.mpr (min_le_min_right timeout hle)) start

/-- A session after a wait that gave up: it says so in the log. -/
def gaveUp (timeout count : Nat) (s : Session) : Session :=
  s.report .debug ("wait_for_lock " ++ m.storeKey key ++ " gave up after " ++ toString count ++
    " attempt(s) in " ++ toString timeout ++ "ms")

/-- How a wait ends after its tries, when some were made before them. -/
def ended (timeout tried : Nat) (r : Trial) : Except Failure Bool × Session :=
  match r.outcome with
  | .ok false => (.ok false, m.gaveUp key timeout (tried + r.tries.length) r.session)
  | outcome => (outcome, r.session)

theorem ended_eq (timeout tried : Nat) (r : Trial) :
    (m.ended key timeout tried r).1 = r.outcome ∧
      (m.ended key timeout tried r).2.Alike r.session := by
  unfold ended
  rcases r.outcome with f | _ | _
  · exact ⟨rfl, .refl _⟩
  · exact ⟨rfl, report_alike ..⟩
  · exact ⟨rfl, .refl _⟩

/-- The instants at which waiting tries again by a pace: none, if its clock cannot count the interval. -/
def paceInstants (start : Int) (pace : Except Failure Period) (timeout : Nat) : List Int :=
  match pace with
  | .ok interval => pollInstants start interval timeout
  | .error _ => []

theorem paceInstants_sorted (start : Int) (pace : Except Failure Period) (timeout : Nat) :
    (start :: paceInstants start pace timeout).Pairwise (· ≤ ·) := by
  cases pace with
  | ok interval => exact pollInstants_sorted start interval timeout
  | error f => exact List.pairwise_singleton _ _

theorem paceInstants_le {start : Int} {pace : Except Failure Period} {timeout : Nat} :
    ∀ instant ∈ paceInstants start pace timeout, instant ≤ start + timeout := by
  intro instant h
  cases pace with
  | ok interval =>
    obtain ⟨i, -, rfl⟩ := List.mem_map.mp h
    omega
  | error f => cases h

/-- How a wait by a pace ends after its tries, when so much time is left at the first of them. A wait that
found somebody holding the lock, and would go on, fails if its clock cannot count the interval. -/
def stopped (pace : Except Failure Period) (timeout tried remaining : Nat) (r : Trial) :
    Except Failure Bool × Session :=
  match pace, remaining, r.outcome with
  | .error f, _ + 1, .ok false => (.error f, r.session)
  | _, _, _ => m.ended key timeout tried r

/-- The end of a wait is that of its tries, or its clock cannot count the interval. -/
theorem stopped_cases (pace : Except Failure Period) (timeout tried remaining : Nat) (r : Trial) :
    m.stopped key pace timeout tried remaining r = m.ended key timeout tried r ∨
      ∃ f, pace = .error f ∧ r.outcome = .ok false ∧
        m.stopped key pace timeout tried remaining r = (.error f, r.session) := by
  unfold stopped
  split
  · exact .inr ⟨_, rfl, ‹_›, rfl⟩
  · exact .inl rfl

theorem stopped_alike (pace : Except Failure Period) (timeout tried remaining : Nat) (r : Trial) :
    (m.stopped key pace timeout tried remaining r).2.Alike r.session := by
  obtain h | ⟨_, -, -, h⟩ := m.stopped_cases key pace timeout tried remaining r
  all_goals rw [h]
  · exact (m.ended_eq key timeout tried r).2
  · exact .refl _

variable {m key token ttl} in
theorem clock_of_take {s s' : Session} {b : Bool}
    (h : (m.take key token ttl).perform s = (.ok b, s')) : s'.clock = s.clock := by
  have hs := m.take_spec key token s ttl
  rw [h] at hs
  cases hs with
  | busy _ alike => exact alike.clock
  | taken _ alike => exact alike.clock

/-- With an interval that can be counted, the loop makes its tries at the instants of the schedule. -/
theorem poll_paced (interval : Period) (timeout tried remaining : Nat) (s : Session) :
    (m.poll key token ttl (.ok interval) timeout tried remaining).perform s =
      m.ended key timeout tried
        (m.tryAt key token ttl (pollInstants s.clock interval remaining) s) := by
  induction remaining using Nat.strongRecOn generalizing tried s with
  | ind remaining ih =>
    rw [poll.eq_def, Action.perform_bind]
    cases remaining with
    | zero =>
      rw [pollInstants_zero]
      unfold tryAt
      rcases (m.take key token ttl).perform s with ⟨f | _ | _, s'⟩ <;> rfl
    | succ left =>
      have hpos := interval.property
      rw [pollInstants_pos _ _ (Nat.succ_pos left)]
      unfold tryAt
      rcases h : (m.take key token ttl).perform s with ⟨f | _ | _, s'⟩
      · rfl
      · dsimp only
        rw [if_neg Bool.false_ne_true, Action.perform_bind, Action.perform_ofExcept]
        dsimp only
        rw [Action.perform_bind, Action.perform_sleep]
        dsimp only
        rw [ih _ (by omega), Session.pass, clock_of_take h, passTo_clock]
        unfold ended
        dsimp only
        generalize m.tryAt key token ttl _ _ = r
        rw [List.length_cons, Nat.add_right_comm, Nat.add_assoc]
      · rfl

/-- With an interval that cannot be counted, the loop makes one try. -/
theorem poll_unpaced (f : Failure) (timeout tried remaining : Nat) (s : Session) :
    (m.poll key token ttl (.error f) timeout tried remaining).perform s =
      m.stopped key (.error f) timeout tried remaining (m.tryAt key token ttl [] s) := by
  rw [poll.eq_def, Action.perform_bind]
  unfold tryAt
  rcases (m.take key token ttl).perform s with ⟨g | _ | _, s'⟩
  · cases remaining <;> rfl
  · cases remaining <;> rfl
  · cases remaining <;> rfl

/-- The loop makes its tries by its pace. -/
theorem poll_eq (pace : Except Failure Period) (timeout tried remaining : Nat) (s : Session) :
    (m.poll key token ttl pace timeout tried remaining).perform s =
      m.stopped key pace timeout tried remaining
        (m.tryAt key token ttl (paceInstants s.clock pace remaining) s) := by
  cases pace with
  | ok interval => exact m.poll_paced key token ttl interval timeout tried remaining s
  | error f => exact m.poll_unpaced key token ttl f timeout tried remaining s

/-! ## The tries -/

variable {m key token ttl} in
/-- The last of the tries decides the outcome. -/
theorem tryAt_last (instants : List Int) (s : Session) :
    ∃ before a, (m.tryAt key token ttl instants s).tries = before ++ [a] ∧
      (m.take key token ttl).perform a =
        ((m.tryAt key token ttl instants s).outcome, (m.tryAt key token ttl instants s).session) := by
  induction instants generalizing s with
  | nil => exact ⟨[], s, rfl, rfl⟩
  | cons instant later ih =>
    unfold tryAt
    rcases h : (m.take key token ttl).perform s with ⟨f | _ | _, s'⟩
    · exact ⟨[], s, rfl, h⟩
    · obtain ⟨before, a, htries, htake⟩ := ih (s'.passTo instant)
      exact ⟨s :: before, a, congrArg (s :: ·) htries, htake⟩
    · exact ⟨[], s, rfl, h⟩

/-- What some tries did: each met the session that others alone would have left, all but the last
were answered that somebody holds the lock, and the last one ended it all. -/
structure Polled (outside : Nat → Session) (last : Nat) (r : Trial) : Prop where
  count : r.tries.length = last + 1
  scenes : ∀ (i : Nat) (a : Session), r.tries[i]? = some a → a.Alike (outside i)
  busy : ∀ i < last, ∃ a s', r.tries[i]? = some a ∧
    (m.take key token ttl).perform a = (.ok false, s')
  ending : ∃ a, r.tries[last]? = some a ∧ (m.take key token ttl).perform a = (r.outcome, r.session)

variable {m key token ttl}

theorem polled_one {outside : Nat → Session} {s s' : Session} {outcome : Except Failure Bool}
    (hs : s.Alike (outside 0)) (h : (m.take key token ttl).perform s = (outcome, s')) :
    m.Polled key token ttl outside 0 ⟨[s], outcome, s'⟩ := by
  refine ⟨rfl, fun i a ha => ?_, fun i hi => absurd hi (Nat.not_lt_zero i), s, rfl, h⟩
  cases i with
  | zero => exact Option.some.inj ha ▸ hs
  | succ i => cases ha

/-- One more try in front, answered that somebody holds the lock. -/
theorem Polled.cons {outside : Nat → Session} {last : Nat} {r : Trial} {s s' : Session}
    (hr : m.Polled key token ttl (fun i => outside (i + 1)) last r) (hs : s.Alike (outside 0))
    (h : (m.take key token ttl).perform s = (.ok false, s')) :
    m.Polled key token ttl outside (last + 1) { r with tries := s :: r.tries } := by
  refine ⟨by rw [← hr.count]; rfl, fun i a ha => ?_, fun i hi => ?_, ?_⟩
  · cases i with
    | zero => exact Option.some.inj ha ▸ hs
    | succ i => exact hr.scenes i a ha
  · cases i with
    | zero => exact ⟨s, s', rfl, h⟩
    | succ i => exact hr.busy i (Nat.lt_of_succ_lt_succ hi)
  · exact hr.ending

/-- Tries at the instants of a sequence meet the sessions that others alone would have left there,
and stop early only when the lock is taken or a try fails. -/
theorem tryAt_polled (count : Nat) {instant : Nat → Int} {outside : Nat → Session}
    (next : ∀ i (s' : Session), s'.Alike (outside i) →
      (s'.passTo (instant (i + 1))).Alike (outside (i + 1)))
    {s : Session} (hs : s.Alike (outside 0)) :
    let r := m.tryAt key token ttl ((List.range count).map fun i => instant (i + 1)) s
    ∃ last ≤ count, m.Polled key token ttl outside last r ∧ (r.outcome = .ok false → last = count) := by
  induction count generalizing instant outside s with
  | zero => exact ⟨0, Nat.le_refl 0, polled_one hs rfl, fun _ => rfl⟩
  | succ count ih =>
    rw [List.range_succ_eq_map, List.map_cons, List.map_map]
    unfold tryAt
    have htake := m.take_spec key token s ttl
    rcases h : (m.take key token ttl).perform s with ⟨f | _ | _, s'⟩
    · exact ⟨0, Nat.zero_le _, polled_one hs h, fun e => nomatch e⟩
    · rw [h] at htake
      cases htake with
      | busy _ alike =>
        -- The answer changed nothing, so the next try meets what others alone would have left.
        obtain ⟨last, hlast, hp, hend⟩ := @ih (fun i => instant (i + 1))
          (fun i => outside (i + 1)) (fun i => next (i + 1)) _ (next 0 s' (alike.trans hs))
        exact ⟨last + 1, Nat.succ_le_succ hlast, hp.cons hs h, fun e => congrArg _ (hend e)⟩
    · exact ⟨0, Nat.zero_le _, polled_one hs h, fun e => nomatch e⟩

/-- The tries before the last found somebody holding the lock. -/
theorem Polled.present {outside : Nat → Session} {last : Nat} {r : Trial}
    (h : m.Polled key token ttl outside last r) :
    ∀ i < last, m.entry key (outside i) ≠ none := by
  intro i hi
  obtain ⟨a, s', ha, hfalse⟩ := h.busy i hi
  have hspec := m.take_spec key token a ttl
  rw [hfalse] at hspec
  cases hspec with
  | busy present alike => rwa [← entry_congr (h.scenes i a ha)]

/-- The tries were made at the instants of the sessions that others alone would have left. -/
theorem Polled.clocks {outside : Nat → Session} {last : Nat} {r : Trial}
    (h : m.Polled key token ttl outside last r) :
    r.tries.map (·.clock) = (List.range (last + 1)).map fun i => (outside i).clock := by
  refine List.ext_getElem (by simp [h.count]) fun i h₁ h₂ => ?_
  rw [List.getElem_map, List.getElem_map, List.getElem_range]
  exact (h.scenes i _ (List.getElem?_eq_getElem (by simpa using h₁))).clock

/-- How the last try ended, in terms of the session that others alone would have left. -/
theorem Polled.ended {outside : Nat → Session} {last : Nat} {r : Trial}
    (h : m.Polled key token ttl outside last r) :
    match r.outcome with
    | .ok true => m.entry key (outside last) = none ∧
        r.session.Alike (m.withEntry key (outside last) (lease token (outside last) ttl))
    | .ok false => m.entry key (outside last) ≠ none ∧ r.session.Alike (outside last)
    | .error f => r.session.Alike (outside last) ∧
        ∃ a, r.tries[last]? = some a ∧ ((m.take key token ttl).perform a).1 = .error f ∧
          ((a.takeFault .set).1 ≠ none ∨ (outside last).isUp = false ∨
            Command.deadline? (outside last).clock ttl.val = none) := by
  obtain ⟨a, ha, htake⟩ := h.ending
  have hscene := h.scenes last a ha
  have hspec := m.take_spec key token a ttl
  rw [htake] at hspec
  obtain ⟨tries, outcome, session⟩ := r
  cases hspec with
  | taken absent alike =>
    refine ⟨by rwa [← entry_congr hscene], alike.trans ?_⟩
    have hl : lease token a ttl = lease token (outside last) ttl := by
      unfold lease; rw [hscene.clock]
    rw [hl]
    exact withEntry_congr m key hscene _
  | busy present alike => exact ⟨by rwa [← entry_congr hscene], alike.trans hscene⟩
  | failed why alike =>
    refine ⟨alike.trans hscene, a, ha, by rw [htake], ?_⟩
    rw [← hscene.isUp, ← hscene.clock]
    obtain ⟨f', hwhy, -⟩ := why
    cases hwhy with
    | arranged fault => exact .inl (by rw [fault]; exact Option.some_ne_none _)
    | down _ isUp => exact .inr (.inl isUp)
    | refused _ _ refusal =>
      exact .inr (.inr (Command.send_setIfAbsent_refused (Int.natCast_pos.mpr ttl.property) refusal))

/-! ## The wait -/

/-- The times that a caller asks for when waiting: the lifetime, the interval and the time to wait. -/
def waitTimes (m : LockManager) (ttl interval timeout : Value) :
    Except Failure (Period × Period × Nat) := do
  let ttl ← m.lifetime ttl
  let interval ← Parameter.period "poll_interval_ms"
    (Parameter.orDefault interval m.settings.pollInterval)
  let timeout ← Parameter.patience "timeout_ms" (Parameter.orDefault timeout m.settings.waitTimeout)
  return (ttl, interval, timeout)

/-- What a wait goes by: the lifetime, the pace and the time to wait. It is refused if its clock cannot
count the time to wait. -/
def waitPlan (timer : Timer) (m : LockManager) (ttl interval timeout : Value) :
    Except Failure (Period × Except Failure Period × Nat) := do
  let (ttl, interval, timeout) ← m.waitTimes ttl interval timeout
  timer timeout
  return (ttl, (timer interval.val).map fun _ => interval, timeout)

/-- With its plan in order, waiting is the loop with one token for all tries. -/
theorem waitBy_eq (timer : Timer) (m : LockManager) (key : String) (token : Option String)
    (ttl interval timeout : Value) (s : Session) :
    (m.waitBy timer key token ttl interval timeout).perform s =
      match m.waitPlan timer ttl interval timeout with
      | .ok (ttl, pace, timeout) =>
        m.stopped key pace timeout 0 timeout
          (m.tryAt key (tokenAt token s) ttl (paceInstants s.clock pace timeout) s)
      | .error f => (.error f, s) := by
  unfold waitBy waitPlan waitTimes
  rw [Action.perform_bind, Action.perform_ofExcept]
  cases m.lifetime ttl with
  | error f => rfl
  | ok ttl =>
    dsimp only
    rw [Action.perform_bind, Action.perform_ofExcept]
    cases Parameter.period "poll_interval_ms" (Parameter.orDefault interval m.settings.pollInterval) with
    | error f => rfl
    | ok interval =>
      dsimp only
      rw [Action.perform_bind, Action.perform_ofExcept]
      cases Parameter.patience "timeout_ms"
          (Parameter.orDefault timeout m.settings.waitTimeout) with
      | error f => rfl
      | ok timeout =>
        have htoken : (tokenOr token).perform s = (.ok (tokenAt token s), s) := by
          cases token with
          | none => rw [tokenOr, defaultToken, Action.perform_of]; rfl
          | some token => rw [tokenOr, Action.perform_pure]; rfl
        dsimp only
        rw [Action.perform_bind, htoken]
        dsimp only
        rw [Action.perform_bind, Action.perform_ofExcept]
        cases htimer : timer timeout with
        | error f => simp only [htimer, bind, Except.bind, pure, Except.pure]
        | ok =>
          simp only [htimer, bind, Except.bind, pure, Except.pure]
          rw [poll_eq]

theorem wait_eq (m : LockManager) (key : String) (token : Option String)
    (ttl interval timeout : Value) (s : Session) :
    (m.wait key token ttl interval timeout).perform s =
      match m.waitPlan .seconds ttl interval timeout with
      | .ok (ttl, pace, timeout) =>
        m.stopped key pace timeout 0 timeout
          (m.tryAt key (tokenAt token s) ttl (paceInstants s.clock pace timeout) s)
      | .error f => (.error f, s) :=
  m.waitBy_eq .seconds key token ttl interval timeout s

/-- With times that its clock can count, a wait goes by them. -/
theorem waitPlan_eq {timer : Timer} {m : LockManager} {ttl interval timeout : Value} {p i : Period}
    {t : Nat} (h : m.waitTimes ttl interval timeout = .ok (p, i, t)) (pause : timer.Counts i.val)
    (patience : timer.Counts t) :
    m.waitPlan timer ttl interval timeout = .ok (p, .ok i, t) := by
  unfold Timer.Counts at pause patience
  simp only [waitPlan, h, pause, patience, bind, Except.bind, pure, Except.pure, Except.map]

/-- With a time that is refused there is no plan. -/
theorem waitPlan_refused {timer : Timer} {m : LockManager} {ttl interval timeout : Value} {f : Failure}
    (h : m.waitTimes ttl interval timeout = .error f) : m.waitPlan timer ttl interval timeout = .error f := by
  unfold waitPlan
  rw [h]
  rfl

theorem waitPlan_eq_ok {timer : Timer} {m : LockManager} {ttl interval timeout : Value} {p : Period}
    {pace : Except Failure Period} {t : Nat}
    (h : m.waitPlan timer ttl interval timeout = .ok (p, pace, t)) :
    ∃ i, m.waitTimes ttl interval timeout = .ok (p, i, t) ∧
      pace = (timer i.val).map fun _ => i := by
  unfold waitPlan at h
  rcases htimes : m.waitTimes ttl interval timeout with f | ⟨q, i, u⟩
  · rw [htimes] at h; cases h
  · rw [htimes] at h
    cases htimer : timer u with
    | error f => simp only [htimer, bind, Except.bind] at h; cases h
    | ok =>
      simp only [htimer, bind, Except.bind, pure, Except.pure] at h
      cases h
      exact ⟨i, rfl, rfl⟩

/-- A plan fails with the refusal of a time, or because the clock cannot count the time to wait. -/
theorem waitPlan_eq_error {timer : Timer} {m : LockManager} {ttl interval timeout : Value} {f : Failure}
    (h : m.waitPlan timer ttl interval timeout = .error f) :
    m.waitTimes ttl interval timeout = .error f ∨
      ∃ times, m.waitTimes ttl interval timeout = .ok times ∧ timer times.2.2 = .error f := by
  unfold waitPlan at h
  rcases htimes : m.waitTimes ttl interval timeout with g | ⟨q, i, u⟩
  · rw [htimes] at h
    cases h
    exact .inl rfl
  · rw [htimes] at h
    cases htimer : timer u with
    | error g =>
      simp only [htimer, bind, Except.bind] at h
      cases h
      exact .inr ⟨_, rfl, htimer⟩
    | ok => simp only [htimer, bind, Except.bind, pure, Except.pure] at h; cases h

theorem period_int (name : String) (p : Period) :
    Parameter.period name (.int p.val) = .ok p := by
  have := p.property
  unfold Parameter.period
  dsimp only
  rw [dif_pos (by omega)]
  rfl

theorem waitTimes_int (m : LockManager) (ttl interval : Period) (timeout : Nat) :
    m.waitTimes (.int ttl.val) (.int interval.val) (.int timeout) = .ok (ttl, interval, timeout) := by
  unfold waitTimes lifetime
  simp only [Parameter.orDefault, period_int, Parameter.patience]
  rw [if_pos (Int.natCast_nonneg timeout)]
  rfl

theorem lifetime_of_waitTimes {m : LockManager} {ttl interval timeout : Value} {p i : Period} {t : Nat}
    (h : m.waitTimes ttl interval timeout = .ok (p, i, t)) : m.lifetime ttl = .ok p := by
  unfold waitTimes at h
  cases hl : m.lifetime ttl with
  | error f => rw [hl] at h; cases h
  | ok q =>
    rw [hl] at h
    cases hi : Parameter.period "poll_interval_ms"
        (Parameter.orDefault interval m.settings.pollInterval) with
    | error f => rw [hi] at h; cases h
    | ok j =>
      rw [hi] at h
      cases ht : Parameter.patience "timeout_ms"
          (Parameter.orDefault timeout m.settings.waitTimeout) with
      | error f => rw [ht] at h; cases h
      | ok k => rw [ht] at h; cases h; rfl

theorem Took.trans_alike {s s₁ s₂ : Session} {outcome : Except Failure Bool}
    (h : m.Took key token s ttl (outcome, s₁)) (halike : s₂.Alike s₁) :
    m.Took key token s ttl (outcome, s₂) := by
  cases h with
  | failed why alike => exact .failed why (halike.trans alike)
  | busy present alike => exact .busy present (halike.trans alike)
  | taken absent alike => exact .taken absent (halike.trans alike)

/-- A wait that is answered ends with a try: that try's answer is the one of the wait, and what it did
stays. -/
theorem wait_took (m : LockManager) (key token : String) {ttl interval timeout : Value} {s : Session}
    {b : Bool} (h : ((m.wait key (some token) ttl interval timeout).perform s).1 = .ok b) :
    ∃ p last, m.lifetime ttl = .ok p ∧
      m.Took key token last p ((m.wait key (some token) ttl interval timeout).perform s) := by
  rw [wait_eq] at h ⊢
  rcases hplan : m.waitPlan .seconds ttl interval timeout with f | ⟨p, pace, t⟩
  · rw [hplan] at h
    cases h
  obtain ⟨i, htimes, -⟩ := waitPlan_eq_ok hplan
  obtain ⟨_, last, -, htake⟩ := @tryAt_last m key token p (paceInstants s.clock pace t) s
  refine ⟨p, last, lifetime_of_waitTimes htimes, ?_⟩
  rw [hplan] at h
  dsimp only [tokenAt, Option.getD_some] at h ⊢
  have htook := m.take_spec key token last p
  rw [htake] at htook
  generalize m.tryAt key token p (paceInstants s.clock pace t) s = r at h htook ⊢
  obtain hended | ⟨f, -, -, hstopped⟩ := m.stopped_cases key pace t 0 t r
  · obtain ⟨hout, halike⟩ := m.ended_eq key t 0 r
    rw [← hout] at htook
    rw [hended]
    exact htook.trans_alike halike
  · rw [hstopped] at h
    cases h

theorem expecting_passTo (start : Session) (events : List Event) :
    ((start.expecting events).passTo (start.expecting events).clock).Alike
      (start.expecting events) :=
  passTo_passTo (Int.le_refl _) _

/-- The last instant of the schedule is when the time is up. -/
theorem min_ceilDiv_mul (interval : Period) (timeout : Nat) :
    min (timeout ⌈/⌉ interval.val * interval.val) timeout = timeout := by
  refine Nat.min_eq_right ?_
  have := interval.property
  have h := Nat.div_add_mod (timeout + interval.val - 1) interval.val
  have hm := Nat.mod_lt (timeout + interval.val - 1) this
  rw [Nat.ceilDiv_eq_add_pred_div, Nat.mul_comm]
  omega

/-- **Waiting follows its schedule.** Started in a session in which other events are to come, it
tries to take the lock at once, after each interval and when the time is up, always with the same
token, and stops at the first try that takes the lock or fails. It does nothing else. Each try meets
what others alone would have left. The wait is answered `true` at the first instant at which the lock
is free, and `false` when the time is up; a try that fails is the end of it at that instant, and there
is a reason for it. -/
theorem wait_follows_schedule (m : LockManager) (key : String) (token : Option String)
    (ttl interval : Period) (timeout : Nat) (start : Session) (events : List Event) :
    let s := start.expecting events
    let t := tokenAt token s
    let polls := timeout ⌈/⌉ interval.val
    let instant := fun i : Nat => s.clock + (min (i * interval.val) timeout : Nat)
    let outside := fun i => s.passTo (instant i)
    let r := m.tryAt key t ttl ((List.range polls).map fun i => instant (i + 1)) s
    let done := (m.waitBy .exact key token (.int ttl.val) (.int interval.val) (.int timeout)).perform s
    done = m.ended key timeout 0 r ∧
    (Timer.seconds.Counts interval.val → Timer.seconds.Counts timeout →
      (m.wait key token (.int ttl.val) (.int interval.val) (.int timeout)).perform s = done) ∧
    ∃ last ≤ polls,
      r.tries.map (·.clock) = (List.range (last + 1)).map instant ∧
      (∀ (i : Nat) (a : Session), r.tries[i]? = some a → a.Alike (outside i)) ∧
      (∀ i < last, m.entry key (outside i) ≠ none) ∧
      done.2.clock = instant last ∧
      match done.1 with
      | .ok true =>
        m.entry key (outside last) = none ∧
        done.2.Alike (m.withEntry key (outside last)
          ⟨.string (Utf8.encode t), some (instant last + ttl.val)⟩)
      | .ok false =>
        last = polls ∧ instant last = s.clock + timeout ∧ m.entry key (outside last) ≠ none ∧
        done.2.Alike (outside last)
      | .error f =>
        done.2.Alike (outside last) ∧
        ∃ a, r.tries[last]? = some a ∧ ((m.take key t ttl).perform a).1 = .error f ∧
          ((a.takeFault .set).1 ≠ none ∨ (outside last).isUp = false ∨
            Command.deadline? (instant last) ttl.val = none) := by
  intro s t polls instant outside r done
  -- A clock that counts both times lets the loop go by them.
  have hcounted : ∀ timer : Timer, timer.Counts interval.val → timer.Counts timeout →
      (m.waitBy timer key token (.int ttl.val) (.int interval.val) (.int timeout)).perform s =
        m.ended key timeout 0 r := by
    intro timer pause patience
    rw [waitBy_eq, waitPlan_eq (m.waitTimes_int ttl interval timeout) pause patience]
    rfl
  have hdone : done = m.ended key timeout 0 r := hcounted .exact rfl rfl
  obtain ⟨hout, hsession⟩ : done.1 = r.outcome ∧ done.2.Alike r.session := by
    rw [hdone]
    exact m.ended_eq key timeout 0 r
  have hmono : ∀ i, instant i ≤ instant (i + 1) := by
    intro i
    have := Nat.add_mul i 1 interval.val
    show s.clock + _ ≤ s.clock + _
    omega
  have hstart : s.Alike (outside 0) := by
    have h0 : instant 0 = s.clock := by
      show s.clock + (min (0 * interval.val) timeout : Nat) = s.clock
      rw [Nat.zero_mul, Nat.zero_min]; exact Int.add_zero _
    show s.Alike (s.passTo (instant 0))
    rw [h0]
    exact (expecting_passTo start events).symm
  obtain ⟨last, hlast, hp, hend⟩ : ∃ last ≤ polls, m.Polled key t ttl outside last r ∧
      (r.outcome = .ok false → last = polls) :=
    tryAt_polled polls (fun i s' h => (h.passTo _).trans (passTo_passTo (hmono i) s)) hstart
  have hended := hp.ended
  refine ⟨hdone, fun pause patience => (hcounted .seconds pause patience).trans hdone.symm, last, hlast,
    hp.clocks, hp.scenes, hp.present, ?_⟩
  rw [hout]
  -- The clock stands at the last try, however it ended.
  have hclock : r.session.clock = instant last := by
    rcases ho : r.outcome with f | _ | _ <;> rw [ho] at hended
    · exact hended.1.clock
    · exact hended.2.clock
    · exact hended.2.clock
  refine ⟨hsession.clock.trans hclock, ?_⟩
  rcases ho : r.outcome with f | _ | _ <;> rw [ho] at hended
  · exact ⟨hsession.trans hended.1, hended.2⟩
  · refine ⟨hend ho, ?_, hended.1, hsession.trans hended.2⟩
    rw [hend ho]
    show s.clock + (min (polls * interval.val) timeout : Nat) = _
    rw [min_ceilDiv_mul]
  · exact ⟨hended.1, hsession.trans hended.2⟩

end LockManager
end Leasehold

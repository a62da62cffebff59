/-
When polls are made. A poller is served punctually if each poll begins at the later of two times,
the one it is due at and the one from which the poller waits for it. Then no poll begins before the
fetch of the one before it has ended; over any number of polls they come at most five milliseconds
closer together than the interval says, however late some of them were; and if no fetch takes
longer than the interval, every poll is made exactly when it is due (`polls_on_schedule`).
-/
import Fleet.Poller.Watch
import Fleet.Proofs.Poller.Run

namespace Fleet

/-! ## Due times -/

section

variable {interval due made : Nat}

/-- A poll that is made is followed by one that is due at least an interval after it was due, -/
theorem le_nextPoll (h : due ≤ made) : due + interval ≤ nextPoll interval due made := by
  unfold nextPoll
  split
  · exact le_rfl
  · exact Nat.add_le_add_right h interval

/-- and at least an interval after it was made, up to the tolerance. -/
theorem made_le_nextPoll : made + interval ≤ nextPoll interval due made + pollTolerance := by
  unfold nextPoll
  split <;> omega

theorem nextPoll_self : nextPoll interval due due = due + interval := if_pos (Nat.le_add_right _ _)

end

namespace Poller.Run

/-! ## Polls by their number -/

/-- The poll with number `k`, counted from zero, begins at step `n`. -/
structure Begins (run : Run) (k n : Nat) : Prop where
  tick : run.event n = some .tick
  waiting : (run.state n).phase = .waiting
  due : (run.state n).due ≤ run.clock n
  polls : (run.state n).polls = k

/-- The fetch of the poll with number `k` ends at step `n`. -/
structure Ends (run : Run) (k n : Nat) : Prop where
  reply : ∃ outcome, run.event n = some (.reply outcome)
  fetching : (run.state n).phase = .fetching
  polls : (run.state n).polls = k + 1

variable {run : Run} {k m n : Nat}

theorem Begins.succ (h : run.Begins k n) : (run.state (n + 1)).phase = .fetching ∧
    (run.state (n + 1)).due = nextPoll run.interval (run.state n).due (run.clock n) ∧
    (run.state (n + 1)).polls = k + 1 := by
  obtain ⟨tick, waiting, due, polls⟩ := h
  obtain ⟨_, t, -⟩ := transition tick
  generalize run.state (n + 1) = next at t
  cases t with
  | begins => exact ⟨rfl, by rw [interval_state], by rw [polls]⟩
  | passes undue => exact absurd due (not_le.2 (undue waiting))

theorem Ends.succ (h : run.Ends k n) : (run.state (n + 1)).phase = .waiting ∧
    (run.state (n + 1)).due = (run.state n).due ∧ (run.state (n + 1)).polls = k + 1 := by
  obtain ⟨⟨outcome, reply⟩, fetching, polls⟩ := h
  obtain ⟨_, t, -⟩ := transition reply
  generalize run.state (n + 1) = next at t
  cases t with
  | ends => exact ⟨rfl, rfl, polls⟩
  | ignores _ idle => exact absurd fetching idle

/-- At a step a poll begins, or no poll is counted and the next one stays due when it was. -/
theorem begins_or_not (run : Run) (n : Nat) : run.Begins (run.state n).polls n ∨
    (run.state (n + 1)).polls = (run.state n).polls ∧
      (run.state (n + 1)).due = (run.state n).due := by
  rcases run.step_cases n with ⟨-, same, -⟩ | ⟨event, _, he, t, -⟩
  · rw [same]
    exact .inr ⟨rfl, rfl⟩
  · generalize run.state (n + 1) = next at t
    cases t with
    | begins waiting due => exact .inl ⟨he, waiting, due, rfl⟩
    | passes | ends | ignores | stops => exact .inr ⟨rfl, rfl⟩

theorem monotone_polls (run : Run) : Monotone fun n => (run.state n).polls := by
  refine monotone_nat_of_le_succ fun n => ?_
  rcases run.begins_or_not n with begins | ⟨same, -⟩
  · rw [begins.succ.2.2]
    exact Nat.le_succ _
  · rw [same]

/-- A poll that has begun is counted. -/
theorem Begins.lt_polls (h : run.Begins k m) (hmn : m < n) : k < (run.state n).polls := by
  have later : (run.state (m + 1)).polls ≤ (run.state n).polls := run.monotone_polls hmn
  rw [h.succ.2.2] at later
  exact later

/-- A poll that is counted has begun. -/
theorem exists_begins (h : k < (run.state n).polls) : ∃ m < n, run.Begins k m := by
  induction n with
  | zero => exact absurd h (Nat.not_lt_zero k)
  | succ n ih =>
    by_cases counted : k < (run.state n).polls
    · obtain ⟨m, hm, begins⟩ := ih counted
      exact ⟨m, Nat.lt_succ_of_lt hm, begins⟩
    · rcases run.begins_or_not n with begins | ⟨same, -⟩
      · rw [begins.succ.2.2] at h
        obtain rfl : (run.state n).polls = k := by omega
        exact ⟨n, Nat.lt_succ_self n, begins⟩
      · exact absurd (same ▸ h) counted

/-- Polls with smaller numbers begin earlier. -/
theorem Begins.lt {i j : Nat} (h : run.Begins i m) (h' : run.Begins j n) (hij : i < j) : m < n := by
  by_contra later
  have counted : (run.state n).polls ≤ (run.state m).polls := run.monotone_polls (not_lt.1 later)
  rw [h.polls, h'.polls] at counted
  omega

theorem Begins.unique (h : run.Begins k m) (h' : run.Begins k n) : m = n := by
  rcases Nat.lt_trichotomy m n with before | same | after
  · exact absurd (h.lt_polls before) (by rw [h'.polls]; exact lt_irrefl k)
  · exact same
  · exact absurd (h'.lt_polls after) (by rw [h.polls]; exact lt_irrefl k)

theorem Begins.exists_earlier (h : run.Begins k n) {i : Nat} (hik : i ≤ k) :
    ∃ m ≤ n, run.Begins i m := by
  rcases hik.eq_or_lt with rfl | before
  · exact ⟨n, le_rfl, h⟩
  · obtain ⟨m, hm, begins⟩ := exists_begins (h.polls ▸ before)
    exact ⟨m, hm.le, begins⟩

/-- The fetch of a poll ends between that poll and the next one. -/
theorem Ends.between {e : Nat} (h : run.Ends k e) (hm : run.Begins k m)
    (hn : run.Begins (k + 1) n) : m < e ∧ e < n := by
  constructor
  · by_contra before
    have counted : (run.state e).polls ≤ (run.state m).polls := run.monotone_polls (not_lt.1 before)
    rw [h.polls, hm.polls] at counted
    omega
  · by_contra after
    rcases (not_lt.1 after).eq_or_lt with rfl | after
    · have waiting := hn.waiting
      rw [h.fetching] at waiting
      cases waiting
    · have counted := hn.lt_polls after
      rw [h.polls] at counted
      omega

/-! ## When polls are due -/

/-- When a poll was due and made decides when the next one is due. -/
theorem Begins.due_eq (h : run.Begins k m) (h' : run.Begins (k + 1) n) :
    (run.state n).due = nextPoll run.interval (run.state m).due (run.clock m) := by
  have latest := h'.polls
  have hmn := h.lt h' (Nat.lt_succ_self k)
  clear h'
  -- the due time stays as long as no other poll is counted
  induction n, hmn using Nat.le_induction with
  | base => exact h.succ.2.1
  | succ n hmn ih =>
    have counted := h.lt_polls hmn
    rcases run.begins_or_not n with begins | ⟨same, due⟩
    · rw [begins.succ.2.2] at latest
      omega
    · rw [due]
      exact ih (same ▸ latest)

/-- The first poll is due when the run begins. -/
theorem due_of_uncounted (h : (run.state n).polls = 0) : (run.state n).due = run.clock 0 := by
  induction n with
  | zero => rfl
  | succ n ih =>
    rcases run.begins_or_not n with begins | ⟨same, due⟩
    · rw [begins.succ.2.2] at h
      cases h
    · rw [due]
      exact ih (same ▸ h)

/-- From one poll to a later one the due time moves on by an interval for each, or by more. -/
theorem Begins.due_le (h : run.Begins k m) {r : Nat} (h' : run.Begins (k + r) n) :
    (run.state m).due + r * run.interval ≤ (run.state n).due := by
  induction r generalizing n with
  | zero =>
    obtain rfl := h.unique h'
    omega
  | succ r ih =>
    obtain ⟨o, -, between⟩ := h'.exists_earlier (Nat.le_succ (k + r))
    calc (run.state m).due + (r + 1) * run.interval
        = (run.state m).due + r * run.interval + run.interval := by rw [Nat.succ_mul, Nat.add_assoc]
      _ ≤ (run.state o).due + run.interval := Nat.add_le_add_right (ih between) _
      _ ≤ nextPoll run.interval (run.state o).due (run.clock o) := le_nextPoll between.due
      _ = (run.state n).due := (between.due_eq h').symm

/-- However late a poll was made, the later ones come an interval apart. The tolerance counts only
once, for from the next poll on the due times are an interval apart. -/
theorem Begins.spaced (h : run.Begins k m) {r : Nat} (h' : run.Begins (k + r) n) :
    run.clock m + r * run.interval ≤ run.clock n + pollTolerance := by
  cases r with
  | zero =>
    obtain rfl := h.unique h'
    omega
  | succ r =>
    rw [← Nat.succ_add_eq_add_succ] at h'
    obtain ⟨o, -, next⟩ := h'.exists_earlier (Nat.le_add_right _ r)
    calc run.clock m + (r + 1) * run.interval
        = run.clock m + run.interval + r * run.interval := by rw [Nat.succ_mul]; omega
      _ ≤ (run.state o).due + pollTolerance + r * run.interval := by
          rw [h.due_eq next]
          exact Nat.add_le_add_right made_le_nextPoll _
      _ = (run.state o).due + r * run.interval + pollTolerance := by omega
      _ ≤ (run.state n).due + pollTolerance := Nat.add_le_add_right (next.due_le h') _
      _ ≤ run.clock n + pollTolerance := Nat.add_le_add_right h'.due _

/-! ## Punctual runs -/

/-- The poller is served punctually, and its fetches take these times, in order. -/
structure Punctual (run : Run) (durations : Nat → Nat) : Prop where
  /-- The first poll is made at once. -/
  first : ∃ n, run.Begins 0 n ∧ run.clock n = run.clock 0
  /-- The fetch of every poll ends when its time is over, and the next poll is made at the later of
  that time, from which the poller waits for it, and the time it is due at. -/
  next : ∀ k, ∃ m e n, run.Begins k m ∧ run.Ends k e ∧ run.Begins (k + 1) n ∧
    run.clock e = run.clock m + durations k ∧ run.clock n = max (run.state n).due (run.clock e)

/-- The polls of a run, whose fetches take these times, keep to their schedule. -/
structure OnSchedule (run : Run) (durations : Nat → Nat) : Prop where
  goesOn : ∀ k, ∃ n, run.Begins k n
  /-- The fetch of a poll ends before the next poll begins. -/
  apart : ∀ {k m n : Nat}, run.Begins k m → run.Begins (k + 1) n →
    ∃ e, m < e ∧ e < n ∧ run.Ends k e ∧ run.clock e = run.clock m + durations k
  /-- Over any number of polls, they come at most the tolerance closer together than the interval
  says. -/
  spaced : ∀ {k r m n : Nat}, run.Begins k m → run.Begins (k + r) n →
    run.clock m + r * run.interval ≤ run.clock n + 5
  /-- A poll before which no fetch has taken longer than the interval is made exactly in its turn. -/
  regular : ∀ {k n : Nat}, (∀ j < k, durations j ≤ run.interval) → run.Begins k n →
    run.clock n = run.clock 0 + k * run.interval

section Punctual

variable {durations : Nat → Nat} (punctual : run.Punctual durations)
include punctual

theorem Punctual.exists_begins (k : Nat) : ∃ n, run.Begins k n := by
  cases k with
  | zero =>
    obtain ⟨n, begins, -⟩ := punctual.first
    exact ⟨n, begins⟩
  | succ k =>
    obtain ⟨-, -, n, -, -, begins, -⟩ := punctual.next k
    exact ⟨n, begins⟩

theorem Punctual.apart (h : run.Begins k m) (h' : run.Begins (k + 1) n) :
    ∃ e, m < e ∧ e < n ∧ run.Ends k e ∧ run.clock e = run.clock m + durations k := by
  obtain ⟨o, e, -, begins, ends, -, lasted, -⟩ := punctual.next k
  obtain rfl := begins.unique h
  obtain ⟨after, before⟩ := ends.between h h'
  exact ⟨e, after, before, ends, lasted⟩

/-- After short fetches a poll is on time: it is due and made an interval after the one before. -/
theorem Punctual.onTime (short : ∀ j < k, durations j ≤ run.interval) (h : run.Begins k n) :
    run.clock n = run.clock 0 + k * run.interval ∧
      (run.state n).due = run.clock 0 + k * run.interval := by
  induction k generalizing n with
  | zero =>
    obtain ⟨first, begins, atOnce⟩ := punctual.first
    obtain rfl := begins.unique h
    rw [Nat.zero_mul, Nat.add_zero]
    exact ⟨atOnce, due_of_uncounted h.polls⟩
  | succ k ih =>
    obtain ⟨m, e, o, before, -, begins, lasted, made⟩ := punctual.next k
    obtain rfl := begins.unique h
    obtain ⟨clock, due⟩ := ih (fun j hj => short j (Nat.lt_succ_of_lt hj)) before
    have next : (run.state o).due = run.clock 0 + (k + 1) * run.interval := by
      rw [before.due_eq begins, due, clock, nextPoll_self, Nat.succ_mul, Nat.add_assoc]
    refine ⟨?_, next⟩
    have ended : run.clock e ≤ run.clock 0 + (k + 1) * run.interval := by
      rw [lasted, clock, Nat.succ_mul, ← Nat.add_assoc]
      exact Nat.add_le_add_left (short k (Nat.lt_succ_self k)) _
    rw [made, next, max_eq_left ended]

theorem Punctual.onSchedule : run.OnSchedule durations where
  goesOn := punctual.exists_begins
  apart := punctual.apart
  spaced h h' := h.spaced h'
  regular short h := (punctual.onTime short h).1

end Punctual

/-! ## All sequences of fetches -/

/-- When the polls with these fetches are due, and when they are made. -/
def times (interval : Nat) (fetches : Nat → Fetch) : Nat → Nat × Nat
  | 0 => (0, 0)
  | k + 1 =>
    let (due, made) := times interval fetches k
    let next := nextPoll interval due made
    (next, max next (made + (fetches k).duration))

/-- The run whose polls have these fetches. -/
def ofFetches (interval : Nat) (fetches : Nat → Fetch) : Run where
  interval := interval
  clock n :=
    let made := (times interval fetches (n / 2)).2
    if n % 2 = 0 then made else made + (fetches (n / 2)).duration
  event n := some (if n % 2 = 0 then .tick else .reply (fetches (n / 2)).outcome)
  clock_mono := by
    refine monotone_nat_of_le_succ fun n => ?_
    rcases Nat.mod_two_eq_zero_or_one n with even | odd
    · have half : (n + 1) / 2 = n / 2 := by omega
      rw [if_pos even, if_neg (by omega), half]
      exact Nat.le_add_right _ _
    · have half : (n + 1) / 2 = n / 2 + 1 := by omega
      rw [if_neg (by omega), if_pos (by omega), half]
      exact le_max_right _ _

section OfFetches

variable (interval : Nat) (fetches : Nat → Fetch)

theorem due_le_made (k : Nat) :
    (times interval fetches k).1 ≤ (times interval fetches k).2 := by
  cases k with
  | zero => exact le_rfl
  | succ k => exact le_max_left _ _

theorem ofFetches_even (k : Nat) :
    (ofFetches interval fetches).event (2 * k) = some .tick ∧
      (ofFetches interval fetches).clock (2 * k) = (times interval fetches k).2 := by
  simp [ofFetches]

theorem ofFetches_odd (k : Nat) :
    (ofFetches interval fetches).event (2 * k + 1) = some (.reply (fetches k).outcome) ∧
      (ofFetches interval fetches).clock (2 * k + 1) =
        (times interval fetches k).2 + (fetches k).duration := by
  have half : (2 * k + 1) / 2 = k := by omega
  simp [ofFetches, half, Nat.add_mod]

/-- Before a step of even number the poller waits for the next poll. -/
structure WaitsFor (k : Nat) : Prop where
  waiting : ((ofFetches interval fetches).state (2 * k)).phase = .waiting
  due : ((ofFetches interval fetches).state (2 * k)).due = (times interval fetches k).1
  polls : ((ofFetches interval fetches).state (2 * k)).polls = k

variable {interval fetches}

theorem WaitsFor.begins {k : Nat} (h : WaitsFor interval fetches k) :
    (ofFetches interval fetches).Begins k (2 * k) := by
  obtain ⟨tick, clock⟩ := ofFetches_even interval fetches k
  refine ⟨tick, h.waiting, ?_, h.polls⟩
  rw [h.due, clock]
  exact due_le_made interval fetches k

theorem WaitsFor.ends {k : Nat} (h : WaitsFor interval fetches k) :
    (ofFetches interval fetches).Ends k (2 * k + 1) := by
  obtain ⟨fetching, -, polls⟩ := h.begins.succ
  exact ⟨⟨_, (ofFetches_odd interval fetches k).1⟩, fetching, polls⟩

variable (interval fetches)

theorem waitsFor (k : Nat) : WaitsFor interval fetches k := by
  induction k with
  | zero => exact ⟨rfl, rfl, rfl⟩
  | succ k ih =>
    obtain ⟨-, due, -⟩ := ih.begins.succ
    obtain ⟨waiting, same, polls⟩ := ih.ends.succ
    refine ⟨waiting, same.trans (due.trans ?_), polls⟩
    rw [ih.due, (ofFetches_even interval fetches k).2]
    rfl

theorem punctual_ofFetches :
    (ofFetches interval fetches).Punctual fun k => (fetches k).duration where
  first := ⟨0, (waitsFor interval fetches 0).begins, rfl⟩
  next k := by
    have waits := waitsFor interval fetches k
    have next := waitsFor interval fetches (k + 1)
    obtain ⟨-, ended⟩ := ofFetches_odd interval fetches k
    refine ⟨_, _, _, waits.begins, waits.ends, next.begins, ?_, ?_⟩
    · rw [ended, (ofFetches_even interval fetches k).2]
    · rw [next.due, ended, (ofFetches_even interval fetches (k + 1)).2]
      rfl

end OfFetches

/-- Every run that is served punctually keeps to its schedule, and there is such a run for every
interval and every sequence of fetches, however long they take. -/
theorem polls_on_schedule :
    (∀ (run : Run) (durations : Nat → Nat), run.Punctual durations → run.OnSchedule durations) ∧
    ∀ (interval : Nat) (fetches : Nat → Fetch), ∃ run : Run, run.interval = interval ∧
      run.clock 0 = 0 ∧ run.Punctual fun k => (fetches k).duration :=
  ⟨fun _ _ punctual => punctual.onSchedule,
    fun interval fetches =>
      ⟨ofFetches interval fetches, rfl, rfl, punctual_ofFetches interval fetches⟩⟩

/-- A first fetch that takes longer than a minute, and then short ones. -/
def overrun (k : Nat) : Fetch := if k = 0 then ⟨70000, .ok []⟩ else ⟨200, .ok []⟩

/-- The poll after the long fetch is late, and the one after that comes a minute later. -/
theorem overrun_on_schedule :
    (ofFetches 60000 overrun).Punctual (fun k => (overrun k).duration) ∧
    (ofFetches 60000 overrun).OnSchedule (fun k => (overrun k).duration) ∧
    (List.range 4).map (fun k => (ofFetches 60000 overrun).clock (2 * k)) =
      [0, 70000, 130000, 190000] := by
  have punctual := punctual_ofFetches 60000 overrun
  exact ⟨punctual, polls_on_schedule.1 _ _ punctual, by decide⟩

end Poller.Run

end Fleet

/-
When a read is answered at once. The fetch that counts is the successful one that ended last: a
read is answered at once exactly if that fetch ended less than the stale time ago and the cache has
not been invalidated since it began, and then it gets the value of that fetch (`hits_exactly`).
Fetches that fail or are still running have no say in it. Invalidations are counted without a
bound, so nothing here is about a counter that wraps.
-/
import Fleet.Proofs.Cache.Invalidation

namespace Fleet.Cache

variable {α : Type}

/-- Only a fresh value answers a read in the step in which it begins. -/
theorem read_effect_eq_answer_iff {cache : Cache α} {now call : Nat} {outcome : Outcome α} :
    (cache.read now call).2 = some (.answer call outcome) ↔
      ∃ value, cache.fresh? now = some value ∧ .ok value = outcome := by
  unfold read
  cases cache.fresh? now with
  | some value => simp
  | none =>
    -- whoever asks for the lock fetches or waits
    by_cases free : cache.lock.isFree = true <;> simp [enter, launch, free]

theorem Landing.succeeded_iff {landing : Landing α} :
    landing.succeeded = true ↔ ∃ value, landing.outcome = .ok value := by
  unfold Landing.succeeded
  cases landing.outcome <;> simp [Except.isOk, Except.toBool]

theorem Transition.staleTime_eq {cache next : Cache α} {now : Nat} {event : Event α}
    {effect : Option (Effect α)} (t : Transition cache now event next effect) :
    next.staleTime = cache.staleTime := by
  cases t <;> rfl

namespace Run

variable {run : Run α} {n now : Nat} {landing : Landing α}

/-! ## The last success -/

/-- The fetch is, of those that have succeeded before a step, the one that ended last. -/
structure LastSuccess (run : Run α) (n : Nat) (landing : Landing α) : Prop where
  landed : landing ∈ run.landed n
  succeeded : landing.succeeded = true
  latest : ∀ other ∈ run.landed n, other.succeeded = true → other.ended ≤ landing.ended

theorem began_lt_ended (h : landing ∈ run.landed n) : landing.began < landing.ended := by
  obtain ⟨-, hr, -⟩ := landing_spec h
  exact (flight_spec_of_running hr).1

theorem find?_eq_some_iff_lastSuccess :
    (run.landed n).find? Landing.succeeded = some landing ↔ run.LastSuccess n landing := by
  constructor
  · intro hf
    refine ⟨List.mem_of_find?_eq_some hf, List.find?_some hf, ?_⟩
    intro other hm succeeded
    rcases ended_lt_of_find? hf hm succeeded with rfl | hlt
    · exact le_rfl
    · have := began_lt_ended (List.mem_of_find?_eq_some hf)
      omega
  · rintro ⟨hm, succeeded, latest⟩
    obtain ⟨last, hf⟩ := Option.isSome_iff_exists.1
      (List.find?_isSome.2 ⟨landing, hm, succeeded⟩)
    rcases ended_lt_of_find? hf hm succeeded with rfl | hlt
    · exact hf
    · have hl := List.mem_of_find?_eq_some hf
      have := latest last hl (List.find?_some hf)
      have := began_lt_ended hl
      omega

/-- The entry is what the last success left. -/
theorem latest_eq_some_iff {entry : Entry α} :
    (run.state n).latest = some entry ↔
      ∃ landing, run.LastSuccess n landing ∧ landing.entry? = some entry := by
  rw [(run.tied n).latest]
  constructor
  · intro h
    obtain ⟨landing, hf, he⟩ := find?_succeeded h
    exact ⟨landing, find?_eq_some_iff_lastSuccess.1 hf, he⟩
  · rintro ⟨landing, last, he⟩
    obtain ⟨other, ho⟩ := Option.isSome_iff_exists.1
      (List.findSome?_isSome_iff.2
        (⟨landing, last.landed, by rw [he]; rfl⟩ : ∃ l ∈ run.landed n, l.entry?.isSome = true))
    obtain ⟨found, hf, hfe⟩ := find?_succeeded ho
    -- there is only one last success
    have hl := find?_eq_some_iff_lastSuccess.2 last
    obtain rfl : found = landing := Option.some.inj (hf.symm.trans hl)
    exact ho.trans (hfe.symm.trans he)

/-- What is shown without fetching. -/
structure ShowsLastSuccess (run : Run α) : Prop where
  /-- The value of the last success, -/
  some_iff : ∀ n value, (run.state n).peek = some value ↔
    ∃ landing, run.LastSuccess n landing ∧ landing.outcome = .ok value
  /-- and nothing only before the first success. -/
  none_iff : ∀ n, (run.state n).peek = none ↔ ∀ landing ∈ run.landed n, landing.succeeded = false
  /-- It changes only when a fetch succeeds. -/
  kept : ∀ n, (∀ value, run.event n ≠ some (.finish (.ok value))) →
    (run.state (n + 1)).peek = (run.state n).peek

theorem lastSuccess_succ_iff (unsucceeded : ∀ value, run.event n ≠ some (.finish (.ok value))) :
    run.LastSuccess (n + 1) landing ↔ run.LastSuccess n landing := by
  rw [← find?_eq_some_iff_lastSuccess, ← find?_eq_some_iff_lastSuccess]
  rcases run.landed_succ n with hl | ⟨flight, outcome, he, -, -, hl⟩
  · rw [hl]
  · cases outcome with
    | ok value => exact absurd he (unsucceeded value)
    | error failure =>
      rw [hl, List.find?_cons_of_neg (by simp [Landing.succeeded, Except.isOk, Except.toBool])]

theorem peek_eq_some_iff {value : α} : (run.state n).peek = some value ↔
    ∃ landing, run.LastSuccess n landing ∧ landing.outcome = .ok value := by
  unfold peek
  rw [Option.map_eq_some_iff]
  constructor
  · rintro ⟨entry, hl, rfl⟩
    obtain ⟨landing, last, he⟩ := latest_eq_some_iff.1 hl
    exact ⟨landing, last, (Landing.entry?_eq_some_iff.1 he).1⟩
  · rintro ⟨landing, last, ho⟩
    have he : landing.entry? = some ⟨value, landing.time, landing.generation⟩ :=
      Landing.entry?_eq_some_iff.2 ⟨ho, rfl, rfl⟩
    exact ⟨_, latest_eq_some_iff.2 ⟨landing, last, he⟩, rfl⟩

theorem showsLastSuccess (run : Run α) : run.ShowsLastSuccess where
  some_iff _ _ := peek_eq_some_iff
  none_iff n := by
    constructor
    · intro nothing landing hm
      by_contra succeeded
      obtain ⟨last, hf⟩ := Option.isSome_iff_exists.1
        (List.find?_isSome.2 ⟨landing, hm, by simpa using succeeded⟩)
      obtain ⟨value, ho⟩ := Landing.succeeded_iff.1 (List.find?_some hf)
      have shown := peek_eq_some_iff.2 ⟨last, find?_eq_some_iff_lastSuccess.1 hf, ho⟩
      rw [nothing] at shown
      cases shown
    · intro failed
      by_contra shown
      obtain ⟨value, shown⟩ := Option.ne_none_iff_exists'.1 shown
      obtain ⟨landing, last, -⟩ := peek_eq_some_iff.1 shown
      have := failed landing last.landed
      rw [last.succeeded] at this
      cases this
  kept n unsucceeded := by
    refine Option.ext fun value => ?_
    rw [peek_eq_some_iff, peek_eq_some_iff]
    simp only [lastSuccess_succ_iff unsucceeded]

/-! ## Invalidations since a step -/

theorem invalidations_succ_of_ne (h : run.event n ≠ some .invalidate) :
    run.invalidations (n + 1) = run.invalidations n := by
  unfold invalidations
  rcases run.turn_cases n with ⟨-, -, hh⟩ | ⟨event, he, turn⟩
  · rw [hh]
  · cases turn with
    | idle _ _ _ hh | fetch _ _ _ hh | land _ _ _ _ _ hh | drop _ _ _ _ hh => rw [hh]
    | invalidate event_eq _ _ => exact absurd (by rw [he, event_eq]) h

theorem invalidations_eq_iff {m : Nat} (hmn : m ≤ n) :
    run.invalidations m = run.invalidations n ↔
      ∀ i, m ≤ i → i < n → run.event i ≠ some .invalidate := by
  constructor
  · intro same i hmi hin hi
    have : run.invalidations m ≤ run.invalidations i := invalidations_le hmi
    have := invalidations_lt hi hin
    omega
  · intro valid
    induction n, hmn using Nat.le_induction with
    | base => rfl
    | succ n hmn ih =>
      rw [invalidations_succ_of_ne (valid n hmn (Nat.lt_succ_self n))]
      exact ih fun i hmi hin => valid i hmi (by omega)

theorem staleTime_state (run : Run α) (n : Nat) : (run.state n).staleTime = run.staleTime := by
  induction n with
  | zero => rfl
  | succ n ih =>
    rcases run.step_cases n with ⟨-, hs, -⟩ | ⟨event, -, t, -⟩
    · rw [hs, ih]
    · rw [t.staleTime_eq, ih]

/-! ## Hits -/

/-- The fetch whose value is served at a time to reads that begin in a step: the last success, if
it ended less than the stale time ago and the cache has not been invalidated since it began. -/
structure Current (run : Run α) (n now : Nat) (landing : Landing α) : Prop where
  last : run.LastSuccess n landing
  young : now - landing.time < run.staleTime
  valid : ∀ i, landing.began < i → i < n → run.event i ≠ some .invalidate

theorem valid_iff (h : landing ∈ run.landed n) :
    landing.generation = run.invalidations n ↔
      ∀ i, landing.began < i → i < n → run.event i ≠ some .invalidate := by
  obtain ⟨hended, hr, -⟩ := landing_spec h
  obtain ⟨hbegan, -, hg⟩ := flight_spec_of_running hr
  rw [hg, invalidations_eq_iff (by omega)]
  constructor
  · exact fun valid i hi => valid i hi.le
  · intro valid i hi hin he
    exact valid i (lt_of_le_of_ne hi (ne_began_of_invalidate he h).symm) hin he

theorem fresh?_eq_some_iff {value : α} :
    (run.state n).fresh? now = some value ↔
      ∃ landing, run.Current n now landing ∧ landing.outcome = .ok value := by
  have fresh_iff : ∀ {landing : Landing α} {entry : Entry α}, landing ∈ run.landed n →
      landing.entry? = some entry → ((run.state n).isFresh now entry = true ↔
        now - landing.time < run.staleTime ∧
          ∀ i, landing.began < i → i < n → run.event i ≠ some .invalidate) := by
    intro landing entry hm he
    obtain ⟨-, ht, hg⟩ := Landing.entry?_eq_some_iff.1 he
    rw [← valid_iff hm, isFresh, Bool.and_eq_true, beq_iff_eq, decide_eq_true_iff, ← ht, ← hg,
      (run.tied n).generation, staleTime_state, and_comm]
    rfl
  unfold fresh?
  rw [Option.map_eq_some_iff]
  constructor
  · rintro ⟨entry, hf, rfl⟩
    obtain ⟨hl, fresh⟩ := Option.filter_eq_some_iff.1 hf
    obtain ⟨landing, last, he⟩ := latest_eq_some_iff.1 hl
    obtain ⟨young, valid⟩ := (fresh_iff last.landed he).1 fresh
    exact ⟨landing, ⟨last, young, valid⟩, (Landing.entry?_eq_some_iff.1 he).1⟩
  · rintro ⟨landing, ⟨last, young, valid⟩, ho⟩
    have he : landing.entry? = some ⟨value, landing.time, landing.generation⟩ :=
      Landing.entry?_eq_some_iff.2 ⟨ho, rfl, rfl⟩
    exact ⟨_, Option.filter_eq_some_iff.2 ⟨latest_eq_some_iff.2 ⟨landing, last, he⟩,
      (fresh_iff last.landed he).2 ⟨young, valid⟩⟩, rfl⟩

/-- A step that invalidates nothing and in which no fetch succeeds makes no difference. -/
theorem current_succ_iff (valid : run.event n ≠ some .invalidate)
    (unsucceeded : ∀ value, run.event n ≠ some (.finish (.ok value))) :
    run.Current (n + 1) now landing ↔ run.Current n now landing := by
  constructor
  · rintro ⟨last, young, earlier⟩
    exact ⟨(lastSuccess_succ_iff unsucceeded).1 last, young, fun i hi hin => earlier i hi (by omega)⟩
  · rintro ⟨last, young, earlier⟩
    refine ⟨(lastSuccess_succ_iff unsucceeded).2 last, young, fun i hi hin => ?_⟩
    rcases Nat.lt_succ_iff_lt_or_eq.1 hin with hin | rfl
    · exact earlier i hi hin
    · exact valid

/-! ## Reading -/

/-- How a read goes that begins at a time in the state before a step. -/
structure HitsExactly (run : Run α) (n now call : Nat) : Prop where
  /-- It is answered at once if there is a current fetch, with the outcome of that fetch. -/
  iff : ∀ outcome, ((run.state n).step now (.read call)).2 = some (.answer call outcome) ↔
    ∃ landing, run.Current n now landing ∧ landing.outcome = outcome
  /-- A hit is the value of a success and leaves the cache as it is. -/
  value : ∀ landing, run.Current n now landing → (∃ value, landing.outcome = .ok value) ∧
    ((run.state n).step now (.read call)).1 = run.state n
  /-- Without a current fetch it fetches or waits at the lock. -/
  otherwise : (¬ ∃ landing, run.Current n now landing) →
    ((run.state n).step now (.read call)).2 = some (.fetch call) ∨
    ((run.state n).step now (.read call)).2 = none ∧
      ⟨call, .read (run.state n).completed⟩ ∈
        ((run.state n).step now (.read call)).1.lock.waiting
  /-- Failures, joins, and fetches that are still running do not matter. -/
  kept : run.event n ≠ some .invalidate → (∀ value, run.event n ≠ some (.finish (.ok value))) →
    ∀ landing, run.Current (n + 1) now landing ↔ run.Current n now landing
  /-- An invalidation ends it, be it while the fetch runs or later. -/
  invalidated : ∀ landing, run.LastSuccess n landing → ∀ i, landing.began < i → i < n →
    run.event i = some .invalidate → ¬ run.Current n now landing
  /-- With a stale time of zero nothing is ever current. -/
  never : run.staleTime = 0 → ∀ landing, ¬ run.Current n now landing

/-- A read is answered at once exactly if the last success is young enough and has not been
invalidated since it began. -/
theorem hits_exactly (run : Run α) (n now call : Nat) : run.HitsExactly n now call where
  iff outcome := by
    rw [show (run.state n).step now (.read call) = (run.state n).read now call from rfl,
      read_effect_eq_answer_iff]
    constructor
    · rintro ⟨value, fresh, rfl⟩
      exact fresh?_eq_some_iff.1 fresh
    · rintro ⟨landing, current, rfl⟩
      obtain ⟨value, ho⟩ := Landing.succeeded_iff.1 current.last.succeeded
      exact ⟨value, fresh?_eq_some_iff.2 ⟨landing, current, ho⟩, ho.symm⟩
  value landing current := by
    obtain ⟨value, ho⟩ := Landing.succeeded_iff.1 current.last.succeeded
    refine ⟨⟨value, ho⟩, ?_⟩
    simp only [step, read, fresh?_eq_some_iff.2 ⟨landing, current, ho⟩]
  otherwise stale := by
    have hf : (run.state n).fresh? now = none := by
      by_contra fresh
      obtain ⟨value, fresh⟩ := Option.ne_none_iff_exists'.1 fresh
      obtain ⟨landing, current, -⟩ := fresh?_eq_some_iff.1 fresh
      exact stale ⟨landing, current⟩
    by_cases free : (run.state n).lock.isFree = true
    · exact .inl (by simp [step, read, hf, enter, free, launch])
    · exact .inr (by simp [step, read, hf, enter, free, FairLock.claim])
  kept valid unsucceeded _ := current_succ_iff valid unsucceeded
  invalidated _ _ i hi hin he current := current.valid i hi hin he
  never zero landing current := by
    have := current.young
    omega

end Run

end Fleet.Cache

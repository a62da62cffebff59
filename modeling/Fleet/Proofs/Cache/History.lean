/-
What an observer sees of a cache: how many invalidations there have been, which fetches run, and
which have ended, the last one first. The observer looks at events and effects only. Still the
state of a cache is what its history says (`Tied`): the counters count, the remembered outcome is
the one of the fetch that ended last, the entry is the one of the last success, and at most one
fetch runs, for the holder of the lock. `Transition.tied` is the step of the induction.
-/
import Fleet.Proofs.Cache.Step

namespace Fleet.Cache

variable {α : Type}

/-! ## Histories -/

/-- A fetch that runs. -/
structure Flight where
  call : Nat
  /-- The step it began at. -/
  began : Nat
  /-- How many invalidations there had been by then. -/
  generation : Nat
deriving DecidableEq, Repr

/-- A fetch that has ended. -/
structure Landing (α : Type) extends Flight where
  /-- The step it ended at. -/
  ended : Nat
  time : Nat
  outcome : Outcome α

/-- What has been seen of a cache, the last thing first. -/
structure History (α : Type) where
  invalidations : Nat := 0
  running : List Flight := []
  landed : List (Landing α) := []

/-- The history after one more step, at a time, with its event and what it led to. -/
def History.next (history : History α) (step now : Nat) (event : Event α)
    (effect : Option (Effect α)) : History α :=
  match event, effect with
  | _, some (.fetch call) =>
    { history with running := ⟨call, step, history.invalidations⟩ :: history.running }
  | .finish _, some (.answer call outcome) =>
    { history with
      running := history.running.filter (·.call != call)
      landed := (history.running.filter (·.call == call)).map (⟨·, step, now, outcome⟩) ++
        history.landed }
  | .drop call, _ => { history with running := history.running.filter (·.call != call) }
  | .invalidate, _ => { history with invalidations := history.invalidations + 1 }
  | _, _ => history

/-- The entry a fetch leaves; a failure leaves none. -/
def Landing.entry? (landing : Landing α) : Option (Entry α) :=
  match landing.outcome with
  | .ok value => some ⟨value, landing.time, landing.generation⟩
  | .error _ => none

/-! ## The cache and its history -/

/-- The state of a cache is what its history says. -/
structure Tied (cache : Cache α) (history : History α) : Prop where
  fair : cache.lock.Fair
  generation : cache.generation = history.invalidations
  completed : cache.completed = history.landed.length
  remembered : cache.remembered = history.landed.head?.map (·.outcome)
  latest : cache.latest = history.landed.findSome? Landing.entry?
  grounded : cache.flight = none → history.running = []
  aloft : ∀ generation, cache.flight = some generation →
    ∃ caller began, cache.lock.holder = some caller ∧
      history.running = [⟨caller.call, began, generation⟩]

theorem tied_empty (staleTime : Nat) : Tied (α := α) { staleTime } {} where
  fair := fun _ => rfl
  generation := rfl
  completed := rfl
  remembered := rfl
  latest := rfl
  grounded := fun _ => rfl
  aloft := by intro _ h; cases h

theorem Tied.length_running_le {cache : Cache α} {history : History α}
    (tied : Tied cache history) : history.running.length ≤ 1 := by
  cases hf : cache.flight with
  | none => simp [tied.grounded hf]
  | some generation =>
    obtain ⟨caller, began, -, hr⟩ := tied.aloft generation hf
    simp [hr]

theorem Tied.flight_eq_none_of_free {cache : Cache α} {history : History α}
    (tied : Tied cache history) (free : cache.lock.holder = none) : cache.flight = none := by
  cases hf : cache.flight with
  | none => rfl
  | some generation =>
    obtain ⟨caller, began, hh, -⟩ := tied.aloft generation hf
    rw [free] at hh
    cases hh

theorem entryAfter_eq (cache : Cache α) (now began call step generation : Nat)
    (outcome : Outcome α) : cache.entryAfter now generation outcome =
      (Landing.entry? ⟨⟨call, began, generation⟩, step, now, outcome⟩).or cache.latest := by
  cases outcome <;> rfl

section Tied

variable {cache : Cache α} {history : History α} (tied : Tied cache history)
include tied

/-- The holder of the lock begins its fetch. -/
theorem Tied.fetch (idle : cache.flight = none) {lock : FairLock Caller} {caller : Caller}
    (fair : lock.Fair) (holds : lock.holder = some caller) (step : Nat) :
    Tied { cache with lock, flight := some cache.generation }
      { history with
        running := ⟨caller.call, step, history.invalidations⟩ :: history.running } := by
  refine ⟨fair, tied.generation, tied.completed, tied.remembered, tied.latest, ?_, ?_⟩
  · intro h
    cases h
  · intro generation h
    cases h
    exact ⟨caller, step, holds, by rw [tied.grounded idle, tied.generation]⟩

/-- The fetch of the holder ends. -/
theorem Tied.land {caller : Caller} {generation : Nat} (holds : cache.lock.holder = some caller)
    (aloft : cache.flight = some generation) (fair : cache.lock.release.Fair) (step now : Nat)
    (outcome : Outcome α) :
    Tied { cache with
        completed := cache.completed + 1
        latest := cache.entryAfter now generation outcome
        remembered := some outcome
        lock := cache.lock.release
        flight := none }
      (history.next step now (.finish outcome) (some (.answer caller.call outcome))) := by
  obtain ⟨holder, began, hh, hr⟩ := tied.aloft generation aloft
  obtain rfl : caller = holder := Option.some.inj (holds.symm.trans hh)
  have landed : history.next step now (.finish outcome) (some (.answer caller.call outcome)) =
      { history with
        running := []
        landed := ⟨⟨caller.call, began, generation⟩, step, now, outcome⟩ :: history.landed } := by
    simp [History.next, hr]
  rw [landed]
  refine ⟨fair, tied.generation, ?_, rfl, ?_, fun _ => rfl, ?_⟩
  · rw [List.length_cons, ← tied.completed]
  · rw [entryAfter_eq cache now began caller.call step, tied.latest]
    simp only [List.findSome?_cons]
    cases Landing.entry? _ <;> rfl
  · intro generation h
    cases h

/-- A call is dropped, and its fetch with it. -/
theorem Tied.drop (call : Nat) (fair : (cache.drop call).lock.Fair) :
    Tied (cache.drop call) { history with running := history.running.filter (·.call != call) } := by
  refine ⟨fair, tied.generation, tied.completed, tied.remembered, tied.latest, ?_, ?_⟩
  · intro h
    cases hf : cache.flight with
    | none => simp [tied.grounded hf]
    | some generation =>
      obtain ⟨caller, began, hh, hr⟩ := tied.aloft generation hf
      by_cases hc : caller.call = call
      · simp [hr, hc]
      · simp [Cache.drop, hh, hc, hf] at h
  · intro generation h
    by_cases hg : cache.lock.holder.any (·.call == call) = true
    · simp [Cache.drop, hg] at h
    · have hf : cache.flight = some generation := by simpa [Cache.drop, hg] using h
      obtain ⟨caller, began, hh, hr⟩ := tied.aloft generation hf
      have hc : (caller.call == call) = false := by simpa [hh] using hg
      refine ⟨caller, began, FairLock.holder_abandon_of_neg hh hc, ?_⟩
      simpa [hr] using hc

end Tied

/-- Every step keeps the cache and its history tied. -/
theorem Transition.tied {cache next : Cache α} {history : History α} {now : Nat}
    {event : Event α} {effect : Option (Effect α)} (t : Transition cache now event next effect)
    (step : Nat) (tied : Tied cache history) : Tied next (history.next step now event effect) := by
  have fair := t.fair tied.fair
  cases t with
  | hit | rest | lost =>
    exact ⟨fair, tied.generation, tied.completed, tied.remembered, tied.latest, tied.grounded,
      tied.aloft⟩
  | invalidate =>
    exact ⟨fair, congrArg (· + 1) tied.generation, tied.completed, tied.remembered, tied.latest,
      tied.grounded, tied.aloft⟩
  | start asks free =>
    have idle := tied.flight_eq_none_of_free free
    cases asks <;> exact tied.fetch idle fair (FairLock.holder_claim_of_free free _) step
  | wait asks held =>
    cases asks <;>
    · refine ⟨fair, tied.generation, tied.completed, tied.remembered, tied.latest, tied.grounded, ?_⟩
      intro generation h
      rw [FairLock.holder_claim_of_held held]
      exact tied.aloft generation h
  | join holds idle shared =>
    refine ⟨fair, tied.generation, tied.completed, tied.remembered, tied.latest, tied.grounded, ?_⟩
    -- no fetch runs while the lock changes hands
    intro generation h
    exact absurd (idle.symm.trans h) (by simp)
  | launch holds idle alone => exact tied.fetch idle tied.fair holds step
  | land holds aloft => exact tied.land holds aloft fair step now _
  | drop => exact tied.drop _ fair

/-! ## How histories grow -/

/-- What one step adds to the history of a cache. -/
inductive Turn (history next : History α) (step now : Nat) (event : Event α)
    (effect : Option (Effect α)) : Prop where
  /-- Nothing that is recorded. -/
  | idle (valid : event ≠ .invalidate) (unfetched : ∀ call, effect ≠ some (.fetch call))
      (unlanded : ∀ outcome, event = .finish outcome → effect = none) (same : next = history)
  | invalidate (event_eq : event = .invalidate) (effect_eq : effect = none)
      (next_eq : next = { history with invalidations := history.invalidations + 1 })
  | fetch (call : Nat) (effect_eq : effect = some (.fetch call)) (grounded : history.running = [])
      (next_eq : next = { history with running := [⟨call, step, history.invalidations⟩] })
  | land (flight : Flight) (outcome : Outcome α) (event_eq : event = .finish outcome)
      (effect_eq : effect = some (.answer flight.call outcome))
      (aloft : history.running = [flight])
      (next_eq : next = { history with
        running := []
        landed := ⟨flight, step, now, outcome⟩ :: history.landed })
  | drop (flight : Flight) (event_eq : event = .drop flight.call) (effect_eq : effect = none)
      (aloft : history.running = [flight]) (next_eq : next = { history with running := [] })

theorem Transition.turn {cache next : Cache α} {history : History α} {now : Nat}
    {event : Event α} {effect : Option (Effect α)} (t : Transition cache now event next effect)
    (step : Nat) (tied : Tied cache history) :
    Turn history (history.next step now event effect) step now event effect := by
  cases t with
  | hit | rest | join | lost => exact .idle (by simp) (by simp) (by simp) rfl
  | wait asks held => cases asks <;> exact .idle (by simp) (by simp) (by simp) rfl
  | invalidate => exact .invalidate rfl rfl rfl
  | start asks free =>
    have grounded := tied.grounded (tied.flight_eq_none_of_free free)
    exact .fetch _ rfl grounded (by simp [History.next, grounded])
  | launch holds idle alone =>
    have grounded := tied.grounded idle
    exact .fetch _ rfl grounded (by simp [History.next, grounded])
  | @land caller generation outcome holds aloft =>
    obtain ⟨holder, began, hh, hr⟩ := tied.aloft generation aloft
    obtain rfl : caller = holder := Option.some.inj (holds.symm.trans hh)
    exact .land ⟨caller.call, began, generation⟩ outcome rfl rfl hr (by simp [History.next, hr])
  | @drop call =>
    have kept : ∀ {flights : List Flight}, history.running.filter (·.call != call) = flights →
        history.next step now (.drop call) none = { history with running := flights } := by
      rintro _ rfl
      rfl
    cases hf : cache.flight with
    | none =>
      have hr := tied.grounded hf
      exact .idle (by simp) (by simp) (by simp) (kept (by simp [hr]))
    | some generation =>
      obtain ⟨caller, began, -, hr⟩ := tied.aloft generation hf
      by_cases hc : caller.call = call
      · exact .drop ⟨caller.call, began, generation⟩ (by rw [hc]) rfl hr (kept (by simp [hr, hc]))
      · exact .idle (by simp) (by simp) (by simp) (kept (by simp [hr, hc]))

end Fleet.Cache

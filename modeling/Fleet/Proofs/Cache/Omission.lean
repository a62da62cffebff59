/-
Failed fetches lose nothing and leave no trace. What is shown without fetching is always the value
of the last success. And a call whose own fetch fails while no other call is under way might as
well not have been made: in the run without it every other call gets the same answers and fetches
in the same steps (`failures_leave_no_trace`). The two runs differ for ever in their hidden state,
the count of the fetches that have ended and the remembered outcome; the later cache is the earlier
one `afterFailure`, and nobody who waits can tell (`Unnoticed`).
-/
import Fleet.Proofs.Cache.Freshness

namespace Fleet

/-! ## Locks with renamed claimants -/

namespace FairLock

variable {κ ι : Type}

/-- The lock with its claimants renamed. -/
def map (f : κ → ι) (lock : FairLock κ) : FairLock ι := ⟨lock.holder.map f, lock.waiting.map f⟩

@[simp] theorem holder_map (f : κ → ι) (lock : FairLock κ) :
    (lock.map f).holder = lock.holder.map f := rfl

@[simp] theorem isFree_map (f : κ → ι) (lock : FairLock κ) :
    (lock.map f).isFree = lock.isFree := by
  simp [isFree]

theorem claim_map (f : κ → ι) (lock : FairLock κ) (who : κ) :
    (lock.map f).claim (f who) = (lock.claim who).map f := by
  unfold claim
  rw [isFree_map]
  split
  · rfl
  · simp [map]

theorem release_map (f : κ → ι) (lock : FairLock κ) :
    (lock.map f).release = lock.release.map f := by
  simp [release, map]

theorem abandon_map {f : κ → ι} {gone : κ → Bool} {away : ι → Bool}
    (h : ∀ who, away (f who) = gone who) (lock : FairLock κ) :
    (lock.map f).abandon away = (lock.abandon gone).map f := by
  have holder : (lock.map f).holder.any away = lock.holder.any gone := by
    simp [Option.any_map, h]
  have waiting : (lock.map f).waiting.filter (!away ·) =
      (lock.waiting.filter (!gone ·)).map f := by
    simp [map, List.filter_map, Function.comp_def, h]
  unfold abandon
  rw [holder, waiting]
  split
  · exact release_map f ⟨lock.holder, lock.waiting.filter (!gone ·)⟩
  · rfl

theorem eq_empty_of_queue {lock : FairLock κ} (h : lock.queue = []) : lock = {} := by
  obtain ⟨holder, waiting⟩ := lock
  cases holder with
  | none => simpa [queue] using h
  | some who => simp [queue] at h

end FairLock

namespace Cache

variable {α : Type}

/-! ## One failure later -/

/-- The demand of a call that begins after one more fetch has ended. -/
def Demand.later : Demand → Demand
  | .read seen => .read (seen + 1)
  | .refresh => .refresh

/-- The caller, had one more fetch ended when it began. -/
def Caller.later (caller : Caller) : Caller := { caller with demand := caller.demand.later }

/-- The cache, had one more fetch ended that left no entry. -/
def afterFailure (cache : Cache α) (remembered : Option (Outcome α)) : Cache α :=
  { cache with
    completed := cache.completed + 1
    remembered
    lock := cache.lock.map Caller.later }

/-- Nobody at the lock can tell the remembered outcome from another one: they are the same, or no
fetch has ended since those who wait began. -/
def Unnoticed (cache : Cache α) (remembered : Option (Outcome α)) : Prop :=
  remembered = cache.remembered ∨
    ∀ caller ∈ cache.lock.queue, ∀ seen, caller.demand = .read seen → seen = cache.completed

section AfterFailure

variable (cache : Cache α) (remembered : Option (Outcome α)) (now : Nat)

theorem enter_afterFailure (caller : Caller) : (cache.afterFailure remembered).enter caller.later =
    ((cache.enter caller).1.afterFailure remembered, (cache.enter caller).2) := by
  have claimed : (cache.afterFailure remembered).lock.claim caller.later =
      (cache.lock.claim caller).map Caller.later := FairLock.claim_map _ _ _
  have same : (cache.afterFailure remembered).lock.isFree = cache.lock.isFree :=
    FairLock.isFree_map _ _
  unfold enter
  simp only [claimed, same]
  split <;> rfl

theorem read_afterFailure (call : Nat) : (cache.afterFailure remembered).read now call =
    ((cache.read now call).1.afterFailure remembered, (cache.read now call).2) := by
  have fresh : (cache.afterFailure remembered).fresh? now = cache.fresh? now := rfl
  unfold read
  rw [fresh]
  cases cache.fresh? now with
  | some value => rfl
  | none => exact cache.enter_afterFailure remembered ⟨call, .read cache.completed⟩

variable {cache remembered} in
theorem shared?_afterFailure {caller : Caller} (unnoticed : cache.Unnoticed remembered)
    (waits : caller ∈ cache.lock.queue) :
    (cache.afterFailure remembered).shared? caller.demand.later = cache.shared? caller.demand := by
  cases hd : caller.demand with
  | refresh => rfl
  | read seen =>
    have succ : cache.completed + 1 = seen + 1 ↔ cache.completed = seen := by omega
    simp only [shared?, afterFailure, Demand.later, succ]
    rcases unnoticed with rfl | unended
    · rfl
    · rw [if_pos (unended caller waits seen hd).symm, if_pos (unended caller waits seen hd).symm]

variable {cache remembered} in
theorem resume_afterFailure (unnoticed : cache.Unnoticed remembered) :
    (cache.afterFailure remembered).resume =
      (cache.resume.1.afterFailure remembered, cache.resume.2) := by
  have holder : (cache.afterFailure remembered).lock.holder =
      cache.lock.holder.map Caller.later := rfl
  have flight : (cache.afterFailure remembered).flight = cache.flight := rfl
  unfold resume
  rw [holder, flight]
  cases hh : cache.lock.holder with
  | none => rfl
  | some caller =>
    cases cache.flight with
    | some generation => rfl
    | none =>
      have shared := shared?_afterFailure unnoticed (FairLock.mem_queue_of_holder hh)
      have released : (cache.afterFailure remembered).lock.release =
          cache.lock.release.map Caller.later := FairLock.release_map _ _
      simp only [Option.map_some, Caller.later, shared]
      cases cache.shared? caller.demand with
      | none => rfl
      | some outcome =>
        simp only [released]
        rfl

/-- The outcome of a fetch is remembered on both sides. -/
theorem finish_afterFailure (outcome : Outcome α) :
    (cache.afterFailure remembered).finish now outcome =
      ((cache.finish now outcome).1.afterFailure
          (if cache.lock.holder.isSome ∧ cache.flight.isSome then some outcome else remembered),
        (cache.finish now outcome).2) := by
  have holder : (cache.afterFailure remembered).lock.holder =
      cache.lock.holder.map Caller.later := rfl
  have flight : (cache.afterFailure remembered).flight = cache.flight := rfl
  unfold finish
  rw [holder, flight]
  cases cache.lock.holder with
  | none => rfl
  | some caller =>
    cases cache.flight with
    | none => rfl
    | some generation =>
      have released : (cache.afterFailure remembered).lock.release =
          cache.lock.release.map Caller.later := FairLock.release_map _ _
      have entry : (cache.afterFailure remembered).entryAfter now generation outcome =
          cache.entryAfter now generation outcome := by
        cases outcome <;> rfl
      simp only [Option.map_some, released, entry]
      rfl

theorem drop_afterFailure (call : Nat) : (cache.afterFailure remembered).drop call =
    (cache.drop call).afterFailure remembered := by
  have abandoned : (cache.afterFailure remembered).lock.abandon (·.call == call) =
      (cache.lock.abandon (·.call == call)).map Caller.later :=
    FairLock.abandon_map (fun _ => rfl) _
  have held : (cache.afterFailure remembered).lock.holder.any (·.call == call) =
      cache.lock.holder.any (·.call == call) := by
    simp [afterFailure, Option.any_map, Caller.later]
  unfold drop
  simp only [abandoned, held]
  rfl

end AfterFailure

/-! ## Going on one failure later -/

section Step

variable {cache next : Cache α} {remembered : Option (Outcome α)} {now : Nat} {event : Event α}
  {effect : Option (Effect α)}

/-- Only the end of a fetch changes what waiting callers look at. -/
theorem Transition.waited_cases (t : Transition cache now event next effect) :
    next.completed = cache.completed ∧ next.remembered = cache.remembered ∨
    ∃ outcome, event = .finish outcome ∧ cache.lock.holder.isSome ∧ cache.flight.isSome ∧
      next.remembered = some outcome := by
  cases t with
  | hit | start | wait | invalidate | join | launch | rest | lost | drop => exact .inl ⟨rfl, rfl⟩
  | land holds aloft => exact .inr ⟨_, rfl, by simp [holds], by simp [aloft], rfl⟩

/-- Whoever comes while no fetch ends cannot tell either. -/
theorem Transition.unnoticed (t : Transition cache now event next effect)
    (fair : cache.lock.Fair) (unnoticed : cache.Unnoticed remembered)
    (completed : next.completed = cache.completed)
    (same : next.remembered = cache.remembered) : next.Unnoticed remembered := by
  rcases unnoticed with h | unended
  · exact .inl (h.trans same.symm)
  · refine .inr fun caller waits seen hd => ?_
    rw [completed]
    rcases t.mem_queue fair waits with waited | asks
    · exact unended caller waited seen hd
    · cases asks with
      | read => exact (Demand.read.inj hd).symm
      | refresh => cases hd

/-- An event leads to the same one failure later. -/
theorem step_afterFailure (fair : cache.lock.Fair) (unnoticed : cache.Unnoticed remembered)
    (now : Nat) (event : Event α) :
    ∃ kept, (cache.afterFailure remembered).step now event =
        ((cache.step now event).1.afterFailure kept, (cache.step now event).2) ∧
      (cache.step now event).1.Unnoticed kept := by
  have t := step_transition cache now event
  have still : (cache.step now event).1.completed = cache.completed ∧
      (cache.step now event).1.remembered = cache.remembered →
      (cache.step now event).1.Unnoticed remembered :=
    fun same => t.unnoticed fair unnoticed same.1 same.2
  cases event with
  | read call =>
    refine ⟨remembered, cache.read_afterFailure remembered now call, still ?_⟩
    exact t.waited_cases.resolve_right (by rintro ⟨_, he, -⟩; cases he)
  | refresh call =>
    refine ⟨remembered, cache.enter_afterFailure remembered ⟨call, .refresh⟩, still ?_⟩
    exact t.waited_cases.resolve_right (by rintro ⟨_, he, -⟩; cases he)
  | invalidate => exact ⟨remembered, rfl, still ⟨rfl, rfl⟩⟩
  | resume =>
    refine ⟨remembered, resume_afterFailure unnoticed, still ?_⟩
    exact t.waited_cases.resolve_right (by rintro ⟨_, he, -⟩; cases he)
  | finish outcome =>
    refine ⟨_, cache.finish_afterFailure remembered now outcome, ?_⟩
    split
    · rename_i lands
      obtain ⟨caller, hh⟩ := Option.isSome_iff_exists.1 lands.1
      obtain ⟨generation, hf⟩ := Option.isSome_iff_exists.1 lands.2
      exact .inl (by simp [step, finish, hh, hf])
    · rename_i idle
      refine still (t.waited_cases.resolve_right ?_)
      rintro ⟨_, _, held, aloft, -⟩
      exact idle ⟨held, aloft⟩
  | drop call =>
    refine ⟨remembered, ?_, still ⟨rfl, rfl⟩⟩
    simp only [step, drop_afterFailure]

end Step

/-! ## One caller alone -/

/-- Nobody is at the lock. -/
structure Idle (cache : Cache α) : Prop where
  lock : cache.lock = {}
  flight : cache.flight = none

/-- The cache while one caller fetches and nobody else is at the lock. -/
def occupied (cache : Cache α) (caller : Caller) (generation : Nat) : Cache α :=
  { cache with lock := { holder := some caller }, flight := some generation }

theorem Idle.step_occupied {cache : Cache α} (idle : cache.Idle) (caller : Caller)
    (generation now : Nat) {event : Event α} (quiet : event.begins? = none)
    (unfinished : ∀ outcome, event ≠ .finish outcome) (kept : event ≠ .drop caller.call) :
    (cache.occupied caller generation).step now event =
        ((cache.step now event).1.occupied caller generation, none) ∧
      (cache.step now event).2 = none ∧ (cache.step now event).1.Idle := by
  obtain ⟨lock, flight⟩ := idle
  cases event with
  | read | refresh => cases quiet
  | invalidate => exact ⟨rfl, rfl, lock, flight⟩
  | resume =>
    have rests : cache.step now .resume = (cache, none) := by simp [step, resume, lock]
    rw [rests]
    exact ⟨rfl, rfl, lock, flight⟩
  | finish outcome => exact absurd rfl (unfinished outcome)
  | drop call =>
    have other : (caller.call == call) = false := by
      rw [beq_eq_false_iff_ne]
      rintro rfl
      exact kept rfl
    refine ⟨?_, rfl, ?_, ?_⟩
    · simp [step, drop, occupied, FairLock.abandon, other]
    · simp [step, drop, lock, FairLock.abandon]
    · simp [step, drop, lock, flight]

/-- The fetch of a caller that is alone fails. -/
theorem Idle.finish_occupied {cache : Cache α} (idle : cache.Idle) (caller : Caller)
    (generation now : Nat) (failure : Failure) :
    (cache.occupied caller generation).finish now (.error failure) =
      (cache.afterFailure (some (.error failure)), some (.answer caller.call (.error failure))) := by
  obtain ⟨lock, flight⟩ := idle
  simp [finish, occupied, afterFailure, entryAfter, FairLock.release, FairLock.map, lock, flight]

namespace Run

variable {run : Run α}

/-! ## Leaving out two steps -/

/-- Between two steps no other call is under way: each has ended before the first of them or begins
after the second. -/
def Alone (run : Run α) (j k call : Nat) : Prop :=
  ∀ i other, run.Begins i other → other ≠ call → k < i ∨ ∃ e, i ≤ e ∧ e < j ∧ run.Ends e other

/-- What happens in a run but for two of its steps. -/
def eventWithout (run : Run α) (j k n : Nat) : Option (Event α) :=
  if n = j ∨ n = k then none else run.event n

theorem begins_of_eventWithout {j k n call : Nat}
    (h : (run.eventWithout j k n).bind Event.begins? = some call) : run.Begins n call := by
  unfold eventWithout at h
  split at h
  · cases h
  · exact h

/-- The run in which nothing happens at two steps. -/
def without (run : Run α) (j k : Nat) : Run α where
  staleTime := run.staleTime
  clock := run.clock
  event := run.eventWithout j k
  clock_mono := run.clock_mono
  once hi hj := run.once (begins_of_eventWithout hi) (begins_of_eventWithout hj)

theorem event_without (run : Run α) {j k n : Nat} (hj : n ≠ j) (hk : n ≠ k) :
    (run.without j k).event n = run.event n := by
  simp [without, eventWithout, hj, hk]

theorem state_succ_of_some {n : Nat} {event : Event α} (h : run.event n = some event) :
    run.state (n + 1) = ((run.state n).step (run.clock n) event).1 := by
  simp [state, h]

theorem state_succ_of_none {n : Nat} (h : run.event n = none) :
    run.state (n + 1) = run.state n := by
  simp [state, h]

theorem effect_of_some {n : Nat} {event : Event α} (h : run.event n = some event) :
    run.effect n = ((run.state n).step (run.clock n) event).2 := by
  simp [effect, h]

theorem effect_of_none {n : Nat} (h : run.event n = none) : run.effect n = none := by
  simp [effect, h]

/-! ## A call that fails alone -/

/-- The call begins in step `j`, its own fetch fails in step `k`, and no other call is under way in
between. -/
structure FailsAlone (run : Run α) (j k call : Nat) (failure : Failure) : Prop where
  begun : run.Begins j call
  fails : run.event k = some (.finish (.error failure))
  answered : run.effect k = some (.answer call (.error failure))
  alone : run.Alone j k call

section Lone

variable {j k call : Nat} {failure : Failure} (lone : run.FailsAlone j k call failure)
include lone

theorem FailsAlone.lt : j < k := by
  obtain ⟨i, hi, begun⟩ := begins_of_answer lone.answered
  obtain rfl := run.begins_unique lone.begun begun
  refine lt_of_le_of_ne hi ?_
  -- no call begins in the step in which a fetch ends
  rintro rfl
  rw [Begins, lone.fails] at begun
  cases begun

theorem FailsAlone.lock_eq : (run.state j).lock = {} := by
  refine FairLock.eq_empty_of_queue (List.eq_nil_iff_forall_not_mem.2 fun caller waits => ?_)
  obtain ⟨i, hi, begun⟩ := begins_of_mem_queue waits
  have other : caller.call ≠ call := by
    rintro rfl
    have := run.begins_unique lone.begun begun
    omega
  rcases lone.alone i caller.call begun other with late | ⟨e, hie, hej, ends⟩
  · have := lone.lt
    omega
  · exact not_mem_queue_of_ends begun hie ends hej caller waits rfl

/-- The call fetches in some step, and its fetch runs from then on until it fails. -/
theorem FailsAlone.exists_landing : ∃ landing : Landing α, landing.call = call ∧
    j ≤ landing.began ∧ run.effect landing.began = some (.fetch call) ∧
    ∀ m, landing.began < m → m ≤ k → landing.toFlight ∈ run.running m := by
  obtain ⟨landing, hl, hc, hended, -, hf⟩ := fetchesOnce_of_finish lone.fails lone.answered
  have hm : landing ∈ run.landed (k + 1) := by
    rw [hl]
    exact List.mem_cons_self
  obtain ⟨-, hr, -⟩ := landing_spec hm
  have fetches := (hf landing.began).2 rfl
  obtain ⟨i, hi, begun⟩ := begins_of_fetch fetches
  obtain rfl := run.begins_unique lone.begun begun
  refine ⟨landing, hc, hi, fetches, fun m hbm hmk => ?_⟩
  rw [hended] at hr
  exact running_between (by rw [hr]; exact List.mem_singleton_self _) hbm hmk

/-- The call begins its fetch at once. -/
theorem FailsAlone.launched : ∃ caller : Caller, caller.call = call ∧
    run.effect j = some (.fetch call) ∧
    run.state (j + 1) = (run.state j).occupied caller (run.state j).generation := by
  obtain ⟨landing, -, hjb, fetches, -⟩ := lone.exists_landing
  have begun := lone.begun
  rcases run.step_cases j with ⟨he, -⟩ | ⟨event, he, t, -⟩
  · rw [Begins, he] at begun
    cases begun
  · rw [Begins, he, Option.bind_some] at begun
    generalize hs : run.state (j + 1) = next at t
    generalize hf : run.effect j = effect at t
    cases t with
    | hit fresh =>
      -- whoever is answered at once does not fetch
      obtain rfl := Option.some.inj begun
      exact absurd fetches (not_fetch_of_answer hf hjb)
    | start asks free =>
      obtain rfl := Option.some.inj (asks.begins.symm.trans begun)
      exact ⟨_, rfl, rfl, by simp [occupied, lone.lock_eq, FairLock.claim, FairLock.isFree]⟩
    | wait asks held => exact absurd (by rw [lone.lock_eq]) held
    | invalidate | join | launch | rest | land | lost | drop => cases begun

/-- While the fetch of the call runs, no fetch ends, no other call begins, and the call is not
dropped. -/
theorem FailsAlone.quiet {m : Nat} {event : Event α} (hjm : j < m) (hmk : m < k)
    (he : run.event m = some event) : event.begins? = none ∧
      (∀ outcome, event ≠ .finish outcome) ∧ event ≠ .drop call := by
  obtain ⟨landing, hc, -, fetches, runs⟩ := lone.exists_landing
  obtain ⟨_, -, fetches', -⟩ := lone.launched
  have hb := fetch_unique fetches fetches'
  have aloft := runs (m + 1) (by omega) hmk
  refine ⟨?_, ?_, ?_⟩
  · by_contra begins
    obtain ⟨other, ho⟩ := Option.ne_none_iff_exists'.1 begins
    have begun : run.Begins m other := by rw [Begins, he, Option.bind_some, ho]
    have apart : other ≠ call := by
      rintro rfl
      have := run.begins_unique lone.begun begun
      omega
    rcases lone.alone m other begun apart with h | ⟨e, h1, h2, -⟩ <;> omega
  · rintro outcome rfl
    rw [running_of_finish he] at aloft
    cases aloft
  · rintro rfl
    rw [running_of_drop he] at aloft
    simp [hc] at aloft

/-! ## The run without it -/

omit lone in
theorem state_without_of_le {n : Nat} (hnj : n ≤ j) (hjk : j ≤ k) :
    (run.without j k).state n = run.state n := by
  induction n with
  | zero => rfl
  | succ n ih =>
    have same := run.event_without (show n ≠ j by omega) (show n ≠ k by omega)
    rcases he : run.event n with _ | event
    · rw [state_succ_of_none he, state_succ_of_none (same.trans he), ih (by omega)]
    · rw [state_succ_of_some he, state_succ_of_some (same.trans he), ih (by omega)]
      rfl

/-- While the call fetches, the two runs differ in nothing but that. -/
theorem FailsAlone.state_between {m : Nat} (hjm : j < m) (hmk : m ≤ k) :
    ∃ caller generation, caller.call = call ∧
      run.state m = ((run.without j k).state m).occupied caller generation ∧
      ((run.without j k).state m).Idle := by
  have gone : (run.without j k).event j = none := by simp [without, eventWithout]
  induction m, hjm using Nat.le_induction with
  | base =>
    obtain ⟨caller, hc, hf, hs⟩ := lone.launched
    refine ⟨caller, (run.state j).generation, hc, ?_⟩
    rw [Nat.succ_eq_add_one, state_succ_of_none gone, state_without_of_le le_rfl lone.lt.le]
    exact ⟨hs, lone.lock_eq, (run.tied j).flight_eq_none_of_free (by rw [lone.lock_eq])⟩
  | succ m hjm ih =>
    obtain ⟨caller, generation, hc, hs, idle⟩ := ih (by omega)
    have same := run.event_without (show m ≠ j by omega) (show m ≠ k by omega)
    refine ⟨caller, generation, hc, ?_⟩
    rcases he : run.event m with _ | event
    · rw [state_succ_of_none he, state_succ_of_none (same.trans he)]
      exact ⟨hs, idle⟩
    · obtain ⟨quiet, unfinished, kept⟩ := lone.quiet hjm hmk he
      obtain ⟨next, -, idle'⟩ := idle.step_occupied caller generation (run.clock m) quiet
        unfinished (hc.symm ▸ kept)
      rw [state_succ_of_some he, state_succ_of_some (same.trans he), hs, next]
      exact ⟨rfl, idle'⟩

/-- From the failure on the one run is one failure later than the other, which nobody notices. -/
theorem FailsAlone.state_after {n : Nat} (hkn : k < n) :
    ∃ remembered, run.state n = ((run.without j k).state n).afterFailure remembered ∧
      ((run.without j k).state n).Unnoticed remembered := by
  have gone : (run.without j k).event k = none := by simp [without, eventWithout]
  have hjk := lone.lt
  induction n, hkn using Nat.le_induction with
  | base =>
    obtain ⟨caller, generation, -, hs, idle⟩ := lone.state_between hjk le_rfl
    refine ⟨some (.error failure), ?_, .inr fun caller waits => ?_⟩
    · rw [Nat.succ_eq_add_one, state_succ_of_some lone.fails, state_succ_of_none gone, hs]
      exact congrArg Prod.fst (idle.finish_occupied caller generation (run.clock k) failure)
    · -- nobody waits yet
      rw [Nat.succ_eq_add_one, state_succ_of_none gone, idle.lock] at waits
      cases waits
  | succ n hkn ih =>
    obtain ⟨remembered, hs, unnoticed⟩ := ih
    have same := run.event_without (show n ≠ j by omega) (show n ≠ k by omega)
    rcases he : run.event n with _ | event
    · rw [state_succ_of_none he, state_succ_of_none (same.trans he)]
      exact ⟨remembered, hs, unnoticed⟩
    · obtain ⟨kept, next, unnoticed'⟩ := step_afterFailure ((run.without j k).tied n).fair unnoticed
        (run.clock n) event
      rw [state_succ_of_some he, state_succ_of_some (same.trans he), hs, next]
      exact ⟨kept, rfl, unnoticed'⟩

/-- In every step but the two the runs lead to the same. -/
theorem FailsAlone.effect_without {n : Nat} (hj : n ≠ j) (hk : n ≠ k) :
    (run.without j k).effect n = run.effect n := by
  have same := run.event_without hj hk
  rcases he : run.event n with _ | event
  · rw [effect_of_none he, effect_of_none (same.trans he)]
  · rw [effect_of_some he, effect_of_some (same.trans he)]
    rcases Nat.lt_or_gt_of_ne hj with before | after
    · rw [state_without_of_le before.le lone.lt.le]
      rfl
    · rcases Nat.lt_or_gt_of_ne hk with during | later
      · obtain ⟨caller, generation, hc, hs, idle⟩ := lone.state_between after during.le
        obtain ⟨quiet, unfinished, kept⟩ := lone.quiet after during he
        obtain ⟨next, silent, -⟩ := idle.step_occupied caller generation (run.clock n) quiet
          unfinished (hc.symm ▸ kept)
        rw [hs, next]
        exact silent
      · obtain ⟨remembered, hs, unnoticed⟩ := lone.state_after later
        obtain ⟨kept, next, -⟩ := step_afterFailure ((run.without j k).tied n).fair unnoticed
          (run.clock n) event
        rw [hs, next]
        rfl

/-- What does not concern the call happens in both runs. -/
theorem FailsAlone.effect_without_iff {effect : Effect α} (unfetched : effect ≠ .fetch call)
    (unanswered : effect ≠ .answer call (.error failure)) (n : Nat) :
    (run.without j k).effect n = some effect ↔ run.effect n = some effect := by
  have silent : ∀ n, n = j ∨ n = k → (run.without j k).effect n = none :=
    fun n hn => effect_of_none (by simp [without, eventWithout, hn])
  by_cases hj : n = j
  · subst hj
    obtain ⟨-, -, launches, -⟩ := lone.launched
    rw [silent n (.inl rfl), launches]
    exact ⟨nofun, fun h => absurd (Option.some.inj h).symm unfetched⟩
  · by_cases hk : n = k
    · subst hk
      rw [silent n (.inr rfl), lone.answered]
      exact ⟨nofun, fun h => absurd (Option.some.inj h).symm unanswered⟩
    · rw [lone.effect_without hj hk]

theorem FailsAlone.peek_without (n : Nat) :
    ((run.without j k).state n).peek = (run.state n).peek := by
  rcases Nat.lt_or_ge j n with hjn | hnj
  · rcases Nat.lt_or_ge k n with hkn | hnk
    · obtain ⟨remembered, hs, -⟩ := lone.state_after hkn
      rw [hs]
      rfl
    · obtain ⟨caller, generation, -, hs, -⟩ := lone.state_between hjn hnk
      rw [hs]
      rfl
  · rw [state_without_of_le hnj lone.lt.le]

end Lone

/-! ## All together -/

/-- Apart from one call, two runs come to the same. -/
structure SameForOthers (run other : Run α) (call : Nat) : Prop where
  clock : other.clock = run.clock
  gone : ∀ n, ¬ other.Begins n call
  /-- The other calls begin in the same steps, -/
  begins : ∀ n rest, rest ≠ call → (other.Begins n rest ↔ run.Begins n rest)
  /-- and nothing else happens that did not happen. -/
  event : ∀ n event, other.event n = some event → run.event n = some event
  answers : ∀ n rest outcome, rest ≠ call →
    (other.effect n = some (.answer rest outcome) ↔ run.effect n = some (.answer rest outcome))
  fetches : ∀ n rest, rest ≠ call →
    (other.effect n = some (.fetch rest) ↔ run.effect n = some (.fetch rest))
  shown : ∀ n, (other.state n).peek = (run.state n).peek

theorem FailsAlone.sameForOthers {j k call : Nat} {failure : Failure}
    (lone : run.FailsAlone j k call failure) : run.SameForOthers (run.without j k) call where
  clock := rfl
  gone n begun := by
    obtain rfl : n = j := run.begins_unique (begins_of_eventWithout begun) lone.begun
    simp [Begins, without, eventWithout] at begun
  begins n rest other := by
    refine ⟨begins_of_eventWithout, fun begun => ?_⟩
    have hj : n ≠ j := by
      rintro rfl
      exact other (Option.some.inj (begun.symm.trans lone.begun))
    have hk : n ≠ k := by
      rintro rfl
      rw [Begins, lone.fails] at begun
      cases begun
    rw [Begins, run.event_without hj hk]
    exact begun
  event n event he := by
    by_cases h : n = j ∨ n = k
    · simp [without, eventWithout, h] at he
    · simpa [without, eventWithout, h] using he
  answers n rest outcome other := by
    apply lone.effect_without_iff
    · simp
    · simp [other]
  fetches n rest other := by
    apply lone.effect_without_iff
    · simp [other]
    · simp
  shown := lone.peek_without

/-- Failed fetches lose nothing, and one that meets no other call leaves no trace. -/
theorem failures_leave_no_trace (run : Run α) : run.ShowsLastSuccess ∧
    ∀ j k call failure, run.FailsAlone j k call failure →
      run.SameForOthers (run.without j k) call :=
  ⟨run.showsLastSuccess, fun _ _ _ _ lone => lone.sameForOthers⟩

/-- A refresh fails between two reads, while the cache is invalidated. -/
def hiccup : Run Nat := ofEvents 30000
  [.read 0, .finish (.ok 7), .refresh 1, .invalidate, .finish (.error (.connection "refused")),
    .read 2, .read 3, .finish (.ok 8), .resume] (by decide)

theorem hiccup_failsAlone : hiccup.FailsAlone 2 4 1 (.connection "refused") where
  begun := rfl
  fails := rfl
  answered := rfl
  alone := by
    intro i other begun apart
    rcases Nat.lt_or_ge 4 i with late | early
    · exact .inl late
    · obtain rfl | rfl | rfl | rfl | rfl : i = 0 ∨ i = 1 ∨ i = 2 ∨ i = 3 ∨ i = 4 := by omega
      · -- the first read is answered before the refresh begins
        obtain rfl := Option.some.inj begun
        exact .inr ⟨1, by omega, by omega, .inl ⟨.ok 7, rfl⟩⟩
      · cases begun
      · exact absurd (Option.some.inj begun).symm apart
      · cases begun
      · cases begun

theorem hiccup_leaves_no_trace : hiccup.FailsAlone 2 4 1 (.connection "refused") ∧
    hiccup.SameForOthers (hiccup.without 2 4) 1 ∧
    hiccup.effect 8 = some (.answer 3 (.ok 8)) ∧
    (hiccup.without 2 4).effect 8 = some (.answer 3 (.ok 8)) :=
  ⟨hiccup_failsAlone, (failures_leave_no_trace hiccup).2 2 4 1 _ hiccup_failsAlone, rfl, rfl⟩

end Run

end Cache

end Fleet

/-
What a cache can do in one step. `Transition` lists the ways with their guards, and every step is
one of them (`step_transition`); what a step does to the queue at the lock and when it begins a
fetch are read off the list once, here, so that no later proof opens `step`.
-/
import Fleet.Cache.Basic

namespace Fleet.Cache

variable {α : Type}

/-! ## The ways to go on -/

/-- The event begins a call that asks for the lock: a refresh, or a read that finds nothing
fresh. -/
inductive Asks (cache : Cache α) (now : Nat) : Event α → Caller → Prop where
  | read {call : Nat} (stale : cache.fresh? now = none) :
    Asks cache now (.read call) ⟨call, .read cache.completed⟩
  | refresh {call : Nat} : Asks cache now (.refresh call) ⟨call, .refresh⟩

/-- The cache after an event, and what the event leads to. -/
inductive Transition (cache : Cache α) (now : Nat) :
    Event α → Cache α → Option (Effect α) → Prop where
  /-- A read finds a fresh value. -/
  | hit {call : Nat} {value : α} (fresh : cache.fresh? now = some value) :
    Transition cache now (.read call) cache (some (.answer call (.ok value)))
  /-- A call finds the lock free and fetches. -/
  | start {event : Event α} {caller : Caller} (asks : Asks cache now event caller)
      (free : cache.lock.holder = none) :
    Transition cache now event
      { cache with lock := cache.lock.claim caller, flight := some cache.generation }
      (some (.fetch caller.call))
  /-- A call finds the lock held and waits. -/
  | wait {event : Event α} {caller : Caller} (asks : Asks cache now event caller)
      (held : cache.lock.holder ≠ none) :
    Transition cache now event { cache with lock := cache.lock.claim caller } none
  | invalidate : Transition cache now .invalidate cache.invalidate none
  /-- The caller whose turn it is takes over the remembered outcome. -/
  | join {caller : Caller} {outcome : Outcome α} (holds : cache.lock.holder = some caller)
      (idle : cache.flight = none) (shared : cache.shared? caller.demand = some outcome) :
    Transition cache now .resume { cache with lock := cache.lock.release }
      (some (.answer caller.call outcome))
  /-- The caller whose turn it is fetches. -/
  | launch {caller : Caller} (holds : cache.lock.holder = some caller)
      (idle : cache.flight = none) (alone : cache.shared? caller.demand = none) :
    Transition cache now .resume { cache with flight := some cache.generation }
      (some (.fetch caller.call))
  /-- It is nobody's turn. -/
  | rest (busy : cache.lock.holder = none ∨ cache.flight ≠ none) :
    Transition cache now .resume cache none
  /-- The running fetch ends. -/
  | land {caller : Caller} {generation : Nat} {outcome : Outcome α}
      (holds : cache.lock.holder = some caller) (aloft : cache.flight = some generation) :
    Transition cache now (.finish outcome)
      { cache with
        completed := cache.completed + 1
        latest := cache.entryAfter now generation outcome
        remembered := some outcome
        lock := cache.lock.release
        flight := none }
      (some (.answer caller.call outcome))
  /-- A fetch ends that nobody runs. -/
  | lost {outcome : Outcome α} (idle : cache.lock.holder = none ∨ cache.flight = none) :
    Transition cache now (.finish outcome) cache none
  | drop {call : Nat} : Transition cache now (.drop call) (cache.drop call) none

theorem enter_transition {cache : Cache α} {now : Nat} {event : Event α} {caller : Caller}
    (asks : Asks cache now event caller) :
    Transition cache now event (cache.enter caller).1 (cache.enter caller).2 := by
  unfold enter FairLock.isFree
  cases hh : cache.lock.holder with
  | none => exact .start asks hh
  | some holder => exact .wait asks (by simp [hh])

theorem resume_transition (cache : Cache α) (now : Nat) :
    Transition cache now .resume cache.resume.1 cache.resume.2 := by
  unfold resume
  split
  · rename_i caller hh hf
    split
    · rename_i outcome hs
      exact .join hh hf hs
    · rename_i hs
      exact .launch hh hf hs
  · rename_i hn
    refine .rest ?_
    cases hh : cache.lock.holder with
    | none => exact .inl rfl
    | some caller => exact .inr fun hf => hn caller hh hf

theorem finish_transition (cache : Cache α) (now : Nat) (outcome : Outcome α) :
    Transition cache now (.finish outcome) (cache.finish now outcome).1
      (cache.finish now outcome).2 := by
  unfold finish
  split
  · rename_i caller generation hh hf
    exact .land hh hf
  · rename_i hn
    refine .lost ?_
    cases hh : cache.lock.holder with
    | none => exact .inl rfl
    | some caller =>
      cases hf : cache.flight with
      | none => exact .inr rfl
      | some generation => exact (hn caller generation hh hf).elim

theorem step_transition (cache : Cache α) (now : Nat) (event : Event α) :
    Transition cache now event (cache.step now event).1 (cache.step now event).2 := by
  cases event with
  | read call =>
    unfold step read
    cases hf : cache.fresh? now with
    | some value => exact .hit hf
    | none => exact enter_transition (.read hf)
  | refresh call => exact enter_transition .refresh
  | invalidate => exact .invalidate
  | resume => exact resume_transition cache now
  | finish outcome => exact finish_transition cache now outcome
  | drop call => exact .drop

/-! ## Effects -/

/-- A fetch begins for a call that asks and finds the lock free, or for the caller whose turn it
is and who has nothing to take over. -/
theorem Transition.fetch_cases {cache next : Cache α} {now call : Nat} {event : Event α}
    (t : Transition cache now event next (some (.fetch call))) :
    (∃ caller, Asks cache now event caller ∧ caller.call = call ∧ cache.lock.holder = none) ∨
    (∃ caller, event = .resume ∧ cache.lock.holder = some caller ∧ caller.call = call ∧
      cache.flight = none ∧ cache.shared? caller.demand = none) := by
  cases t with
  | start asks free => exact .inl ⟨_, asks, rfl, free⟩
  | launch holds idle alone => exact .inr ⟨_, rfl, holds, rfl, idle, alone⟩

theorem finish_ne_fetch (cache : Cache α) (now call : Nat) (outcome : Outcome α) :
    (cache.finish now outcome).2 ≠ some (.fetch call) := by
  intro h
  have t := finish_transition cache now outcome
  rw [h] at t
  rcases t.fetch_cases with ⟨caller, asks, -⟩ | ⟨caller, hr, -⟩
  · cases asks
  · cases hr

/-! ## The queue at the lock -/

section Queue

variable {cache next : Cache α} {now : Nat} {event : Event α} {effect : Option (Effect α)}

theorem queue_drop (fair : cache.lock.Fair) (call : Nat) :
    (cache.drop call).lock.queue = cache.lock.queue.filter (·.call != call) :=
  FairLock.queue_abandon fair _

theorem Transition.fair (t : Transition cache now event next effect) (fair : cache.lock.Fair) :
    next.lock.Fair := by
  cases t with
  | hit | launch | rest | lost | invalidate => exact fair
  | start | wait => exact FairLock.fair_claim _ _
  | join | land => exact FairLock.fair_release _
  | drop => exact FairLock.fair_abandon fair _

theorem released {caller : Caller} (fair : cache.lock.Fair)
    (holds : cache.lock.holder = some caller) :
    cache.lock.queue = caller :: cache.lock.release.queue := by
  rw [FairLock.queue_release fair, FairLock.queue_of_holder holds, List.tail_cons]

theorem Transition.eq_drop {call : Nat} (t : Transition cache now (.drop call) next effect) :
    next = cache.drop call := by
  cases t with
  | start asks | wait asks => cases asks
  | drop => rfl

/-- A step leaves the queue as it is, or one caller joins it at the end, or the one at its front is
answered and leaves it, or a dropped one leaves it. -/
theorem Transition.queue_cases (t : Transition cache now event next effect)
    (fair : cache.lock.Fair) :
    next.lock.queue = cache.lock.queue ∨
    (∃ caller, Asks cache now event caller ∧ next.lock.queue = cache.lock.queue ++ [caller]) ∨
    (∃ caller outcome, effect = some (.answer caller.call outcome) ∧
      cache.lock.holder = some caller ∧ cache.lock.queue = caller :: next.lock.queue) ∨
    (∃ call, event = .drop call ∧ next.lock.queue = cache.lock.queue.filter (·.call != call)) := by
  cases t with
  | hit | launch | rest | lost | invalidate => exact .inl rfl
  | start asks | wait asks => exact .inr (.inl ⟨_, asks, FairLock.queue_claim fair _⟩)
  | join holds | land holds => exact .inr (.inr (.inl ⟨_, _, rfl, holds, released fair holds⟩))
  | drop => exact .inr (.inr (.inr ⟨_, rfl, queue_drop fair _⟩))

/-- Whoever is in the queue after a step was in it before, or asks for the lock in this step. -/
theorem Transition.mem_queue (t : Transition cache now event next effect)
    (fair : cache.lock.Fair) {caller : Caller} (h : caller ∈ next.lock.queue) :
    caller ∈ cache.lock.queue ∨ Asks cache now event caller := by
  rcases t.queue_cases fair with hq | ⟨asker, asks, hq⟩ | ⟨first, _, _, _, hq⟩ | ⟨_, _, hq⟩
  · rw [hq] at h
    exact .inl h
  · rw [hq, List.mem_append, List.mem_singleton] at h
    rcases h with h | rfl
    · exact .inl h
    · exact .inr asks
  · rw [hq]
    exact .inl (List.mem_cons_of_mem _ h)
  · rw [hq] at h
    exact .inl (List.mem_filter.1 h).1

/-- A call is answered when it begins, with a fresh value, or when its turn comes, with the
remembered outcome, or when its own fetch ends; in the last two cases it leaves the lock. -/
theorem Transition.answer_cases {call : Nat} {outcome : Outcome α}
    (t : Transition cache now event next (some (.answer call outcome))) (fair : cache.lock.Fair) :
    (∃ value, event = .read call ∧ outcome = .ok value ∧ cache.fresh? now = some value ∧
      next = cache) ∨
    (∃ caller, caller.call = call ∧ cache.lock.holder = some caller ∧
      cache.lock.queue = caller :: next.lock.queue ∧
      (event = .resume ∧ cache.flight = none ∧ cache.shared? caller.demand = some outcome ∨
        event = .finish outcome ∧ ∃ generation, cache.flight = some generation)) := by
  cases t with
  | hit fresh => exact .inl ⟨_, rfl, rfl, fresh, rfl⟩
  | join holds idle shared =>
    exact .inr ⟨_, rfl, holds, released fair holds, .inl ⟨rfl, idle, shared⟩⟩
  | land holds aloft =>
    exact .inr ⟨_, rfl, holds, released fair holds, .inr ⟨rfl, _, aloft⟩⟩

end Queue

end Fleet.Cache

/-
Runs of a cache: for every step a time and what happens, if anything does. A call begins at most
once in a run; apart from that anything may happen in any order, and a run may go on for ever.
Here are the facts about a whole run that follow from its single steps: the cache is tied to its
history at every step (`tied`), fetches follow one another, and whoever is at the lock has begun
and has not fetched before.
-/
import Fleet.Proofs.Cache.History
import Mathlib.Data.List.Nodup
import Mathlib.Order.Monotone.Basic

namespace Fleet.Cache

variable {α : Type}

/-- What does not hold at first and holds before some step came about at an earlier one. -/
theorem exists_origin {P Q : Nat → Prop} (initially : ¬ Q 0)
    (arises : ∀ n, Q (n + 1) → Q n ∨ P n) {n : Nat} (h : Q n) : ∃ b < n, P b := by
  induction n with
  | zero => exact absurd h initially
  | succ n ih =>
    rcases arises n h with h | h
    · obtain ⟨b, hb, hp⟩ := ih h
      exact ⟨b, by omega, hp⟩
    · exact ⟨n, Nat.lt_succ_self n, h⟩

/-- The call an event begins. -/
def Event.begins? : Event α → Option Nat
  | .read call | .refresh call => some call
  | _ => none

theorem Asks.begins {cache : Cache α} {now : Nat} {event : Event α} {caller : Caller}
    (asks : Asks cache now event caller) : event.begins? = some caller.call := by
  cases asks <;> rfl

/-- A run of a cache. -/
structure Run (α : Type) where
  staleTime : Nat
  /-- The time of each step. -/
  clock : Nat → Nat
  /-- What happens at each step. -/
  event : Nat → Option (Event α)
  clock_mono : Monotone clock
  /-- No call begins twice. -/
  once : ∀ {i j call : Nat}, (event i).bind Event.begins? = some call →
    (event j).bind Event.begins? = some call → i = j

namespace Run

/-! ## States and histories -/

/-- The cache before a step. -/
def state (run : Run α) : Nat → Cache α
  | 0 => { staleTime := run.staleTime }
  | n + 1 =>
    match run.event n with
    | some event => ((run.state n).step (run.clock n) event).1
    | none => run.state n

/-- What a step leads to. -/
def effect (run : Run α) (n : Nat) : Option (Effect α) :=
  (run.event n).bind fun event => ((run.state n).step (run.clock n) event).2

/-- What has been seen before a step. -/
def history (run : Run α) : Nat → History α
  | 0 => {}
  | n + 1 =>
    match run.event n with
    | some event => (run.history n).next n (run.clock n) event (run.effect n)
    | none => run.history n

/-- How many invalidations there have been before a step. -/
def invalidations (run : Run α) (n : Nat) : Nat := (run.history n).invalidations

/-- The fetches that run before a step. -/
def running (run : Run α) (n : Nat) : List Flight := (run.history n).running

/-- The fetches that have ended before a step, the last one first. -/
def landed (run : Run α) (n : Nat) : List (Landing α) := (run.history n).landed

/-- A call begins at a step. -/
def Begins (run : Run α) (n call : Nat) : Prop := (run.event n).bind Event.begins? = some call

/-- In a list of events that begin different calls no call begins twice. -/
theorem eq_of_begins {β : Type} {begins? : β → Option Nat} {events : List β}
    (distinct : events.Pairwise fun a b => begins? a = none ∨ begins? a ≠ begins? b)
    {i j call : Nat} (hi : events[i]?.bind begins? = some call)
    (hj : events[j]?.bind begins? = some call) : i = j := by
  have apart : ∀ {i j : Nat}, events[i]?.bind begins? = some call →
      events[j]?.bind begins? = some call → ¬ i < j := by
    intro i j hi hj hij
    obtain ⟨a, ha, hca⟩ := Option.bind_eq_some_iff.1 hi
    obtain ⟨b, hb, hcb⟩ := Option.bind_eq_some_iff.1 hj
    obtain ⟨hia, rfl⟩ := List.getElem?_eq_some_iff.1 ha
    obtain ⟨hjb, rfl⟩ := List.getElem?_eq_some_iff.1 hb
    rcases List.pairwise_iff_getElem.1 distinct i j hia hjb hij with hn | hn
    · rw [hn] at hca
      cases hca
    · exact hn (hca.trans hcb.symm)
  have h1 := apart hi hj
  have h2 := apart hj hi
  omega

/-- The run of some events, one every millisecond, and nothing after them. -/
def ofEvents (staleTime : Nat) (events : List (Event α))
    (distinct : events.Pairwise fun a b => a.begins? = none ∨ a.begins? ≠ b.begins?) : Run α where
  staleTime := staleTime
  clock := id
  event n := events[n]?
  clock_mono := monotone_id
  once := eq_of_begins distinct

variable (run : Run α)

theorem begins_unique {i j call : Nat} (hi : run.Begins i call) (hj : run.Begins j call) : i = j :=
  run.once hi hj

theorem begins_of_read {run : Run α} {n call : Nat} (h : run.event n = some (.read call)) :
    run.Begins n call := by
  rw [Begins, h]
  rfl

theorem begins_of_refresh {run : Run α} {n call : Nat} (h : run.event n = some (.refresh call)) :
    run.Begins n call := by
  rw [Begins, h]
  rfl

/-- At a step nothing happens, or the cache makes one of its transitions. -/
theorem step_cases (n : Nat) :
    (run.event n = none ∧ run.state (n + 1) = run.state n ∧ run.effect n = none ∧
      run.history (n + 1) = run.history n) ∨
    ∃ event, run.event n = some event ∧
      Transition (run.state n) (run.clock n) event (run.state (n + 1)) (run.effect n) ∧
      run.history (n + 1) = (run.history n).next n (run.clock n) event (run.effect n) := by
  cases he : run.event n with
  | none => exact .inl ⟨rfl, by simp [state, he], by simp [effect, he], by simp [history, he]⟩
  | some event =>
    refine .inr ⟨event, rfl, ?_, by simp [history, he]⟩
    have hs : run.state (n + 1) = ((run.state n).step (run.clock n) event).1 := by
      simp [state, he]
    have hf : run.effect n = ((run.state n).step (run.clock n) event).2 := by simp [effect, he]
    rw [hs, hf]
    exact step_transition _ _ _

theorem transition {n : Nat} {event : Event α} (he : run.event n = some event) :
    Transition (run.state n) (run.clock n) event (run.state (n + 1)) (run.effect n) := by
  rcases run.step_cases n with ⟨hn, -⟩ | ⟨event', he', t, -⟩
  · rw [hn] at he
    cases he
  · rw [he] at he'
    cases he'
    exact t

theorem event_of_effect {n : Nat} {effect : Effect α} (h : run.effect n = some effect) :
    ∃ event, run.event n = some event ∧
      Transition (run.state n) (run.clock n) event (run.state (n + 1)) (some effect) := by
  rcases run.step_cases n with ⟨-, -, hn, -⟩ | ⟨event, he, t, -⟩
  · rw [hn] at h
    cases h
  · rw [h] at t
    exact ⟨event, he, t⟩

/-- At every step the cache is what its history says. -/
theorem tied (n : Nat) : Tied (run.state n) (run.history n) := by
  induction n with
  | zero => exact tied_empty _
  | succ n ih =>
    rcases run.step_cases n with ⟨-, hs, -, hh⟩ | ⟨event, -, t, hh⟩
    · rw [hs, hh]
      exact ih
    · rw [hh]
      exact t.tied n ih

/-- At most one fetch runs at any moment. -/
theorem length_running_le (n : Nat) : (run.running n).length ≤ 1 := (run.tied n).length_running_le

/-! ## What is recorded -/

theorem turn_cases (n : Nat) :
    (run.event n = none ∧ run.effect n = none ∧ run.history (n + 1) = run.history n) ∨
    ∃ event, run.event n = some event ∧
      Turn (run.history n) (run.history (n + 1)) n (run.clock n) event (run.effect n) := by
  rcases run.step_cases n with ⟨he, -, hf, hh⟩ | ⟨event, he, t, hh⟩
  · exact .inl ⟨he, hf, hh⟩
  · refine .inr ⟨event, he, ?_⟩
    rw [hh]
    exact t.turn n (run.tied n)

variable {run}

/-- A fetch that runs began at an earlier step. -/
theorem flight_spec {n : Nat} {flight : Flight} (h : flight ∈ run.running n) :
    flight.began < n ∧ run.effect flight.began = some (.fetch flight.call) ∧
      flight.generation = run.invalidations flight.began := by
  induction n with
  | zero => cases h
  | succ n ih =>
    -- a fetch that runs now ran before this step, or this step began it
    have later : flight ∈ run.running n → flight.began < n + 1 ∧
        run.effect flight.began = some (.fetch flight.call) ∧
        flight.generation = run.invalidations flight.began := by
      intro h
      obtain ⟨hb, hf, hg⟩ := ih h
      exact ⟨by omega, hf, hg⟩
    unfold running at h
    rcases run.turn_cases n with ⟨-, -, hh⟩ | ⟨event, he, turn⟩
    · rw [hh] at h
      exact later h
    · cases turn with
      | idle _ _ _ same =>
        rw [same] at h
        exact later h
      | invalidate _ _ hh =>
        rw [hh] at h
        exact later h
      | fetch call hf _ hh =>
        rw [hh] at h
        obtain rfl := List.mem_singleton.1 h
        exact ⟨by simp, hf, rfl⟩
      | land _ _ _ _ _ hh | drop _ _ _ _ hh =>
        rw [hh] at h
        cases h

theorem flight_spec_of_running {n : Nat} {flight : Flight} (h : run.running n = [flight]) :
    flight.began < n ∧ run.effect flight.began = some (.fetch flight.call) ∧
      flight.generation = run.invalidations flight.began :=
  flight_spec (by rw [h]; exact List.mem_singleton_self _)

/-- The fetch that runs is the one of the holder of the lock. -/
theorem running_of_holder {n generation : Nat} {caller : Caller}
    (holds : (run.state n).lock.holder = some caller)
    (aloft : (run.state n).flight = some generation) :
    ∃ b < n, run.effect b = some (.fetch caller.call) ∧
      run.running n = [⟨caller.call, b, generation⟩] := by
  obtain ⟨holder, began, hh, hr⟩ := (run.tied n).aloft generation aloft
  obtain rfl : caller = holder := Option.some.inj (holds.symm.trans hh)
  obtain ⟨hb, hf, -⟩ := flight_spec_of_running hr
  exact ⟨began, hb, hf, hr⟩

theorem running_of_none {n : Nat} (he : run.event n = none) :
    run.running (n + 1) = run.running n := by
  rcases run.turn_cases n with ⟨-, -, hh⟩ | ⟨event, he', -⟩
  · rw [running, hh, running]
  · rw [he] at he'
    cases he'

theorem running_of_finish {n : Nat} {outcome : Outcome α}
    (he : run.event n = some (.finish outcome)) : run.running (n + 1) = [] := by
  rcases run.step_cases n with ⟨hn, -⟩ | ⟨event, he', t, hh⟩
  · rw [he] at hn
    cases hn
  · rw [he] at he'
    cases he'
    have tied := run.tied n
    unfold running
    generalize run.state (n + 1) = next at t
    generalize run.effect n = effect at t hh
    rw [hh]
    cases t with
    | start asks | wait asks => cases asks
    | @land caller generation _ holds aloft =>
      obtain ⟨holder, began, hh, hr⟩ := tied.aloft generation aloft
      obtain rfl : caller = holder := Option.some.inj (holds.symm.trans hh)
      simp [History.next, hr]
    | lost idle => exact tied.grounded (idle.elim tied.flight_eq_none_of_free id)

theorem landed_of_finish {n : Nat} {flight : Flight} {outcome : Outcome α}
    (hr : run.running n = [flight]) (he : run.event n = some (.finish outcome)) :
    run.landed (n + 1) = ⟨flight, n, run.clock n, outcome⟩ :: run.landed n := by
  rcases run.step_cases n with ⟨hn, -⟩ | ⟨event, he', t, hh⟩
  · rw [he] at hn
    cases hn
  · rw [he] at he'
    cases he'
    have tied := run.tied n
    unfold landed
    unfold running at hr
    generalize run.state (n + 1) = next at t
    generalize run.effect n = effect at t hh
    rw [hh]
    cases t with
    | start asks | wait asks => cases asks
    | @land caller generation _ holds aloft =>
      obtain ⟨holder, began, hh, hr'⟩ := tied.aloft generation aloft
      obtain rfl : caller = holder := Option.some.inj (holds.symm.trans hh)
      rw [hr] at hr'
      cases hr'
      simp [History.next, hr]
    | lost idle =>
      have grounded := tied.grounded (idle.elim tied.flight_eq_none_of_free id)
      rw [hr] at grounded
      cases grounded

/-- The end of a fetch answers the caller it is for. -/
theorem effect_of_finish {n : Nat} {flight : Flight} {outcome : Outcome α}
    (hr : run.running n = [flight]) (he : run.event n = some (.finish outcome)) :
    run.effect n = some (.answer flight.call outcome) := by
  have tied := run.tied n
  unfold running at hr
  cases aloft : (run.state n).flight with
  | none =>
    rw [tied.grounded aloft] at hr
    cases hr
  | some generation =>
    obtain ⟨caller, began, holds, hr'⟩ := tied.aloft generation aloft
    obtain rfl : flight = _ := List.singleton_inj.1 (hr.symm.trans hr')
    simp only [effect, he, Option.bind_some, step, finish, holds, aloft]

theorem running_of_drop {n call : Nat} (he : run.event n = some (.drop call)) :
    run.running (n + 1) = (run.running n).filter (·.call != call) := by
  rcases run.step_cases n with ⟨hn, -⟩ | ⟨event, he', t, hh⟩
  · rw [he] at hn
    cases hn
  · rw [he] at he'
    cases he'
    unfold running
    generalize run.state (n + 1) = next at t
    generalize run.effect n = effect at t hh
    rw [hh]
    cases t with
    | start asks | wait asks => cases asks
    | drop => rfl

/-- Nothing else touches the fetches that run, unless one begins. -/
theorem running_of_unfetched {n : Nat} (unfetched : ∀ call, run.effect n ≠ some (.fetch call))
    (unfinished : ∀ outcome, run.event n ≠ some (.finish outcome))
    (undropped : ∀ call, run.event n ≠ some (.drop call)) :
    run.running (n + 1) = run.running n := by
  unfold running
  rcases run.turn_cases n with ⟨-, -, hh⟩ | ⟨event, he, turn⟩
  · rw [hh]
  · cases turn with
    | idle _ _ _ hh | invalidate _ _ hh => rw [hh]
    | fetch call hf _ _ => exact absurd hf (unfetched call)
    | land _ outcome event_eq _ _ _ => exact absurd (by rw [he, event_eq]) (unfinished outcome)
    | drop flight event_eq _ _ _ => exact absurd (by rw [he, event_eq]) (undropped flight.call)

/-- Each step adds at most one fetch to those that have ended. -/
theorem landed_succ (run : Run α) (n : Nat) :
    run.landed (n + 1) = run.landed n ∨
    ∃ flight outcome, run.event n = some (.finish outcome) ∧
      run.effect n = some (.answer flight.call outcome) ∧ run.running n = [flight] ∧
      run.landed (n + 1) = ⟨flight, n, run.clock n, outcome⟩ :: run.landed n := by
  unfold landed running
  rcases run.turn_cases n with ⟨-, -, hh⟩ | ⟨event, he, turn⟩
  · exact .inl (by rw [hh])
  · cases turn with
    | idle _ _ _ hh | invalidate _ _ hh | fetch _ _ _ hh | drop _ _ _ _ hh => exact .inl (by rw [hh])
    | land flight outcome event_eq effect_eq aloft hh =>
      subst event_eq
      exact .inr ⟨flight, outcome, he, effect_eq, aloft, by rw [hh]⟩

/-- A fetch that has ended was the one that ran when it ended, and its call got its outcome. -/
theorem landing_spec {n : Nat} {landing : Landing α} (h : landing ∈ run.landed n) :
    landing.ended < n ∧ run.running landing.ended = [landing.toFlight] ∧
      run.event landing.ended = some (.finish landing.outcome) ∧
      run.effect landing.ended = some (.answer landing.call landing.outcome) ∧
      landing.time = run.clock landing.ended := by
  induction n with
  | zero => cases h
  | succ n ih =>
    have later : landing ∈ run.landed n → _ := fun h =>
      (⟨Nat.lt_succ_of_lt (ih h).1, (ih h).2⟩ : landing.ended < n + 1 ∧ _)
    rcases run.landed_succ n with hl | ⟨flight, outcome, he, hf, hr, hl⟩
    · rw [hl] at h
      exact later h
    · rw [hl] at h
      rcases List.mem_cons.1 h with rfl | h
      · exact ⟨Nat.lt_succ_self n, hr, he, hf, rfl⟩
      · exact later h

/-- The fetches that end between two steps are put in front of those that ended before. -/
theorem landed_append (run : Run α) {m n : Nat} (h : m ≤ n) :
    ∃ new, run.landed n = new ++ run.landed m ∧ ∀ landing ∈ new, m ≤ landing.ended := by
  induction n, h using Nat.le_induction with
  | base => exact ⟨[], rfl, by simp⟩
  | succ n h ih =>
    obtain ⟨new, hn, hm⟩ := ih
    rcases run.landed_succ n with hl | ⟨flight, outcome, -, -, -, hl⟩
    · exact ⟨new, by rw [hl, hn], hm⟩
    · refine ⟨⟨flight, n, run.clock n, outcome⟩ :: new, by rw [hl, hn, List.cons_append], ?_⟩
      rintro landing hl
      rcases List.mem_cons.1 hl with rfl | hl
      · exact h
      · exact hm landing hl

theorem invalidations_succ (run : Run α) (n : Nat) :
    run.invalidations n ≤ run.invalidations (n + 1) ∧
      (run.event n = some .invalidate → run.invalidations n < run.invalidations (n + 1)) := by
  unfold invalidations
  rcases run.turn_cases n with ⟨he, -, hh⟩ | ⟨event, he, turn⟩
  · rw [hh, he]
    exact ⟨le_rfl, by simp⟩
  · cases turn with
    | idle valid _ _ hh =>
      rw [hh, he]
      exact ⟨le_rfl, fun h => absurd (Option.some.inj h) valid⟩
    | invalidate _ _ hh =>
      rw [hh]
      exact ⟨Nat.le_succ _, fun _ => Nat.lt_succ_self _⟩
    | fetch call hf _ hh =>
      refine ⟨by rw [hh], fun h => ?_⟩
      have t := run.transition h
      rw [hf] at t
      -- an invalidation fetches nothing
      rcases t.fetch_cases with ⟨caller, asks, -⟩ | ⟨caller, hr, -⟩
      · cases asks
      · cases hr
    | land _ _ event_eq _ _ hh | drop _ event_eq _ _ hh =>
      rw [hh, he, event_eq]
      exact ⟨le_rfl, by simp⟩

theorem invalidations_le {m n : Nat} (h : m ≤ n) : run.invalidations m ≤ run.invalidations n :=
  monotone_nat_of_le_succ (fun n => (run.invalidations_succ n).1) h

theorem invalidations_lt {i n : Nat} (hi : run.event i = some .invalidate) (h : i < n) :
    run.invalidations i < run.invalidations n :=
  lt_of_lt_of_le ((run.invalidations_succ i).2 hi) (invalidations_le h)

end Run

end Fleet.Cache

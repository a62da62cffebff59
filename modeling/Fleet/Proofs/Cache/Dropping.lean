/-
Calls that are dropped while they wait, in runs in which any call may be dropped at any time
(`drops_harmless`). A dropped call leaves the lock, with its fetch if one runs, and changes nothing
else; whoever waited behind it moves up. No answer comes from a fetch that was dropped. A reader
whose turn comes cannot see why the fetch ahead of it is gone, but the count of the fetches that
have ended tells it enough: if none has ended since it began, there is nothing to take over, and it
fetches for itself.
-/
import Fleet.Proofs.Cache.Source
import Mathlib.Tactic.IntervalCases

namespace Fleet.Cache.Run

variable {α : Type} {run : Run α}

/-! ## The call that is dropped -/

/-- The call leaves the lock in a step, with its fetch if one runs, and nothing else changes. -/
structure Vacates (run : Run α) (n call : Nat) : Prop where
  latest : (run.state (n + 1)).latest = (run.state n).latest
  remembered : (run.state (n + 1)).remembered = (run.state n).remembered
  generation : (run.state (n + 1)).generation = (run.state n).generation
  completed : (run.state (n + 1)).completed = (run.state n).completed
  unanswered : run.effect n = none
  /-- The others at the lock keep their order, and the first of them holds it. -/
  queue : (run.state (n + 1)).lock.queue = (run.state n).lock.queue.filter (·.call != call)
  holder : (run.state (n + 1)).lock.holder =
    ((run.state n).lock.queue.filter (·.call != call)).head?
  running : run.running (n + 1) = (run.running n).filter (·.call != call)
  /-- Its fetch never ends. -/
  lost : ∀ flight ∈ run.running n, flight.call = call →
    ∀ m, ∀ landing ∈ run.landed m, landing.toFlight ≠ flight
  /-- The call itself never comes back. -/
  gone : ∀ i m, i ≤ n → run.Begins i call → n < m →
    (∀ caller ∈ (run.state m).lock.queue, caller.call ≠ call) ∧
      run.effect m ≠ some (.fetch call) ∧ ∀ outcome, run.effect m ≠ some (.answer call outcome)

/-- A fetch that has ended was not dropped while it ran. -/
theorem kept_of_landing {n : Nat} {landing : Landing α} (h : landing ∈ run.landed n) {m : Nat}
    (hb : landing.began ≤ m) (he : m ≤ landing.ended) :
    run.event m ≠ some (.drop landing.call) := by
  intro dropped
  obtain ⟨-, hr, finishes, -⟩ := landing_spec h
  rcases Nat.eq_or_lt_of_le he with rfl | he
  · rw [finishes] at dropped
    cases dropped
  · have runs := running_between (by rw [hr]; exact List.mem_singleton_self _)
      (Nat.lt_succ_of_le hb) he
    rw [Nat.succ_eq_add_one, running_of_drop dropped] at runs
    simpa using (List.mem_filter.1 runs).2

/-- A fetch that is dropped is not among those that end. -/
theorem ne_of_dropped {n m : Nat} {flight : Flight} {landing : Landing α}
    (runs : flight ∈ run.running n) (dropped : run.event n = some (.drop flight.call))
    (h : landing ∈ run.landed m) : landing.toFlight ≠ flight := by
  rintro rfl
  have began := (flight_spec runs).1
  rcases Nat.lt_or_ge landing.ended n with hlt | hge
  · -- it would still be running when it has ended
    obtain ⟨-, hr, finishes, -⟩ := landing_spec h
    obtain ⟨hb, -⟩ := flight_spec_of_running hr
    have runs := running_between runs (Nat.lt_succ_of_lt hb) hlt
    rw [Nat.succ_eq_add_one, running_of_finish finishes] at runs
    cases runs
  · exact kept_of_landing h began.le hge dropped

/-- A call that has ended neither fetches nor is answered any more. -/
theorem silent_of_ends {i e m call : Nat} (begun : run.Begins i call) (hie : i ≤ e)
    (ends : run.Ends e call) (hm : e < m) :
    run.effect m ≠ some (.fetch call) ∧ ∀ outcome, run.effect m ≠ some (.answer call outcome) := by
  have gone := not_mem_queue_of_ends begun hie ends hm
  have unbegun : ¬ run.Begins m call := by
    intro again
    have := run.begins_unique begun again
    omega
  constructor
  · intro hf
    obtain ⟨event, he, t⟩ := run.event_of_effect hf
    rcases t.fetch_cases with ⟨caller, asks, rfl, -⟩ | ⟨caller, -, holds, hc, -⟩
    · exact unbegun (Enters.begins ⟨event, he, asks⟩)
    · exact gone caller (FairLock.mem_queue_of_holder holds) hc
  · intro outcome hk
    rcases queue_of_answer hk with ⟨he, -⟩ | ⟨caller, hc, holds, -⟩
    · exact unbegun (begins_of_read he)
    · exact gone caller (FairLock.mem_queue_of_holder holds) hc

theorem vacates_of_drop {n call : Nat} (dropped : run.event n = some (.drop call)) :
    run.Vacates n call := by
  have fair := (run.tied n).fair
  have next : run.state (n + 1) = (run.state n).drop call := (run.transition dropped).eq_drop
  have queue : (run.state (n + 1)).lock.queue =
      (run.state n).lock.queue.filter (·.call != call) := by
    rw [next, queue_drop fair]
  constructor
  case latest | remembered | generation | completed => rw [next, Cache.drop]
  case unanswered => simp [effect, dropped, step]
  case queue => exact queue
  case holder => rw [FairLock.holder_eq_head? (run.tied (n + 1)).fair, queue]
  case running => exact running_of_drop dropped
  case lost =>
    rintro flight runs rfl m landing h
    exact ne_of_dropped runs dropped h
  case gone =>
    intro i m hi begun hm
    exact ⟨not_mem_queue_of_ends begun hi (.inr dropped) hm,
      silent_of_ends begun hi (.inr dropped) hm⟩

/-! ## The calls that stay -/

/-- A call is handed the lock once. -/
theorem granted_unique {g g' call : Nat} (h : run.Granted g call) (h' : run.Granted g' call) :
    g = g' := by
  have once : ∀ {g g' : Nat}, run.Granted g call → run.Granted g' call → ¬ g < g' := by
    rintro g g' ⟨hg, -⟩ ⟨hg', before⟩ hlt
    obtain ⟨caller, holds, hc⟩ := Option.map_eq_some_iff.1 hg
    obtain ⟨later, holds', hc'⟩ := Option.map_eq_some_iff.1 hg'
    obtain ⟨j, hj, begun⟩ := begins_of_mem_queue (FairLock.mem_queue_of_holder holds)
    rw [hc, ← hc'] at begun
    have waits : ∀ m, g + 1 ≤ m → m ≤ g' + 1 → later ∈ (run.state m).lock.queue := fun m h1 h2 =>
      mem_queue_between begun (by omega) h2 (FairLock.mem_queue_of_holder holds')
    have same : later = caller := by
      have queue := FairLock.queue_of_holder holds
      have there := waits (g + 1) le_rfl (by omega)
      rw [queue] at there
      rcases List.mem_cons.1 there with same | behind
      · exact same
      · exact absurd (hc'.trans hc.symm) (front_not_mem queue behind)
    -- it holds the lock all the time in between, so it is not handed it again
    rw [same] at waits
    have still := holder_between hlt holds (waits g' hlt (Nat.le_succ g'))
    exact before (by rw [still, Option.map_some, hc])
  have h1 := once h h'
  have h2 := once h' h
  omega

/-- What a reader does in its turn: it fetches exactly if no fetch has ended since it began, and
otherwise takes over the outcome of the one that ended last. -/
structure TakesTurn (run : Run α) (j n call : Nat) : Prop where
  fetches : run.effect n = some (.fetch call) ↔ run.landed n = run.landed j
  joins : run.landed n ≠ run.landed j → ∃ landing, (run.landed n).head? = some landing ∧
    j < landing.ended ∧ run.effect n = some (.answer call landing.outcome)

theorem takesTurn_of_resume {j n : Nat} {caller : Caller}
    (hj : run.event j = some (.read caller.call))
    (holds : (run.state n).lock.holder = some caller) (idle : (run.state n).flight = none)
    (resumes : run.event n = some .resume) : run.TakesTurn j n caller.call := by
  obtain ⟨i, hi, enters⟩ := enters_of_mem_queue (FairLock.mem_queue_of_holder holds)
  obtain rfl : j = i := run.begins_unique (begins_of_read hj) enters.begins
  have t := run.transition resumes
  generalize run.state (n + 1) = next at t
  generalize hf : run.effect n = effect at t
  cases t with
  | start asks | wait asks => cases asks
  | rest busy =>
    rw [holds, idle] at busy
    simp at busy
  | join holder _ shared =>
    obtain rfl : caller = _ := Option.some.inj (holds.symm.trans holder)
    obtain ⟨i, landing, he, hl, rfl, hlt⟩ := join_spec holds shared
    obtain rfl : j = i := run.begins_unique (begins_of_read hj) (begins_of_read he)
    refine ⟨⟨fun h => (by rw [hf] at h; cases h), fun same => ?_⟩, fun _ => ⟨landing, hl, hlt, hf⟩⟩
    -- the fetch whose outcome it takes over had not ended when it began
    have := (landing_spec (List.mem_of_head? (same ▸ hl))).1
    omega
  | launch holder _ alone =>
    obtain rfl : caller = _ := Option.some.inj (holds.symm.trans holder)
    obtain ⟨new, grown, -⟩ := run.landed_append hi.le
    have same : run.landed n = run.landed j := by
      have asked := enters.eq_of_read hj
      rw [congrArg Caller.demand asked] at alone
      rw [asked] at enters
      have := mt (shared_of_landed enters) (not_not_intro alone)
      rw [grown, List.length_append] at this
      rw [grown, List.length_eq_zero_iff.1 (show new.length = 0 by omega), List.nil_append]
    exact ⟨⟨fun _ => same, fun _ => hf⟩, fun changed => absurd same changed⟩

/-- A read during whose wait for the lock no fetch has ended fetches for itself. -/
theorem fetchesOnce_of_granted {j g k call : Nat} {outcome : Outcome α}
    (hj : run.event j = some (.read call)) (granted : run.Granted g call)
    (quiet : run.landed (g + 1) = run.landed j)
    (hk : run.effect k = some (.answer call outcome)) : run.FetchesOnce k call outcome := by
  rcases read_answered hj hk with ⟨rfl, -⟩ | own | ⟨-, g', landing, -, -, granted', hl, -, hlt⟩
  · obtain ⟨caller, holds, hc⟩ := Option.map_eq_some_iff.1 granted.1
    have waits := FairLock.mem_queue_of_holder holds
    obtain ⟨i, hi, begun⟩ := begins_of_mem_queue waits
    obtain rfl : k = i := run.begins_unique (begins_of_read hj) (hc ▸ begun)
    exact absurd hc (not_mem_queue_of_answer hk hi caller waits)
  · exact own
  · obtain rfl := granted_unique granted granted'
    rw [quiet] at hl
    have := (landing_spec (List.mem_of_head? hl)).1
    omega

/-! ## All together -/

/-- What holds in a run in which calls are dropped. -/
structure DropsHarmless (run : Run α) : Prop where
  removed : ∀ {n call}, run.event n = some (.drop call) → run.Vacates n call
  /-- One fetch runs at a time. -/
  single : ∀ n, (run.running n).length ≤ 1
  /-- Every answer is the outcome of a fetch that ended, and was not dropped while it ran. -/
  sourced : ∀ {k call outcome}, run.effect k = some (.answer call outcome) →
    ∃ landing ∈ run.landed (k + 1), run.source k = some landing ∧ landing.outcome = outcome ∧
      ∀ m, landing.began ≤ m → m ≤ landing.ended → run.event m ≠ some (.drop landing.call)
  turn : ∀ {j n caller}, run.event j = some (.read caller.call) →
    (run.state n).lock.holder = some caller → (run.state n).flight = none →
    run.event n = some .resume → run.TakesTurn j n caller.call
  /-- A read during whose wait no fetch has ended gets the outcome of a fetch of its own. -/
  alone : ∀ {j g k call outcome}, run.event j = some (.read call) → run.Granted g call →
    run.landed (g + 1) = run.landed j → run.effect k = some (.answer call outcome) →
    run.FetchesOnce k call outcome
  /-- Nobody who is not dropped waits for ever. -/
  answered : run.Attended → ∀ {j call}, (∀ n, run.event n ≠ some (.drop call)) →
    run.Begins j call → ∃ k outcome, j ≤ k ∧ run.effect k = some (.answer call outcome)

/-- Drops are harmless: whichever calls are dropped, and whenever, what the cache knows stays right
and those that are not dropped get what they ask for. -/
theorem drops_harmless (run : Run α) : run.DropsHarmless where
  removed := vacates_of_drop
  single := run.length_running_le
  sourced := by
    intro k call outcome hk
    obtain ⟨landing, hm, hs, ho, -⟩ := source_of_answer hk
    exact ⟨landing, hm, hs, ho, fun m => kept_of_landing hm⟩
  turn := takesTurn_of_resume
  alone := fetchesOnce_of_granted
  answered := fun attended _ _ => answered_of_kept attended

/-- A refresh is dropped while two reads wait behind its fetch. -/
def aborted : Run Nat := ofEvents 30000
  [.refresh 0, .read 1, .read 2, .drop 0, .resume, .finish (.ok 5), .resume] (by decide)

/-- After the last event nothing changes. -/
theorem aborted_quiet {n : Nat} (h : 7 ≤ n) :
    (aborted.state n).lock.holder = none ∧ aborted.running n = [] := by
  induction n, h using Nat.le_induction with
  | base => exact ⟨rfl, rfl⟩
  | succ n h ih =>
    have nothing : aborted.event n = none := List.getElem?_eq_none h
    rcases aborted.step_cases n with ⟨-, hs, -, hh⟩ | ⟨event, he, -⟩
    · rw [running, hh, hs]
      exact ih
    · rw [nothing] at he
      cases he

theorem aborted_attended : aborted.Attended where
  ends n flight hr := by
    rcases Nat.lt_or_ge n 7 with hn | hn
    · interval_cases n <;> cases hr
      iterate 3 exact ⟨3, by decide, .inr rfl⟩
      exact ⟨5, le_rfl, .inl ⟨_, rfl⟩⟩
    · rw [(aborted_quiet hn).2] at hr
      cases hr
  resumes n caller hr holds := by
    rcases Nat.lt_or_ge n 7 with hn | hn
    · interval_cases n <;> cases hr <;> cases holds
      · exact ⟨4, le_rfl, .inl rfl⟩
      · exact ⟨6, le_rfl, .inl rfl⟩
    · rw [(aborted_quiet hn).1] at holds
      cases holds

/-- The first of the two reads fetches, and the second takes over what it has fetched. -/
theorem aborted_harmless : aborted.Attended ∧ aborted.DropsHarmless ∧
    aborted.effect 4 = some (.fetch 1) ∧ aborted.effect 6 = some (.answer 2 (.ok 5)) :=
  ⟨aborted_attended, drops_harmless aborted, rfl, rfl⟩

end Fleet.Cache.Run

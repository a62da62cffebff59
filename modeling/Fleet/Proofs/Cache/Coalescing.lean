/-
How calls of a cache get their answers when none is dropped (`coalesced`). One fetch runs at a
time. A refresh fetches for itself. A read finds a fresh entry, or fetches for itself, or fetches
nothing and takes over the outcome of the fetch that had ended last when it was handed the lock,
which ended after the read began; and a read that begins while a fetch runs never fetches.
-/
import Fleet.Proofs.Cache.Progress

namespace Fleet.Cache.Run

variable {α : Type} {run : Run α}

/-! ## Ways to be answered -/

/-- The call is handed the lock in a step. -/
def Granted (run : Run α) (n call : Nat) : Prop :=
  (run.state (n + 1)).lock.holder.map (·.call) = some call ∧
    (run.state n).lock.holder.map (·.call) ≠ some call

/-- The call fetches nothing itself. -/
def FetchesNothing (run : Run α) (call : Nat) : Prop := ∀ b, run.effect b ≠ some (.fetch call)

/-- The read that begins in step `j` is answered in it with the entry, which is fresh. -/
def Hits (run : Run α) (j k call : Nat) (outcome : Outcome α) : Prop :=
  k = j ∧ run.FetchesNothing call ∧
    ∃ value, outcome = .ok value ∧ (run.state j).fresh? (run.clock j) = some value

/-- The call fetches exactly once, and is answered in step `k` with what its fetch comes to. -/
def FetchesOnce (run : Run α) (k call : Nat) (outcome : Outcome α) : Prop :=
  ∃ landing, run.landed (k + 1) = landing :: run.landed k ∧ landing.call = call ∧
    landing.ended = k ∧ landing.outcome = outcome ∧
    ∀ b, run.effect b = some (.fetch call) ↔ b = landing.began

/-- The read that begins in step `j` fetches nothing, and is answered in step `k` with the outcome
of the fetch that had ended last when it was handed the lock, a fetch that ended after step `j`. -/
def Joins (run : Run α) (j k call : Nat) (outcome : Outcome α) : Prop :=
  run.FetchesNothing call ∧
    ∃ g landing, j < g ∧ g < k ∧ run.Granted g call ∧
      (run.landed (g + 1)).head? = some landing ∧ landing.outcome = outcome ∧ j < landing.ended

/-! ## Own fetches -/

theorem not_fetch_of_answer {k b call : Nat} {outcome : Outcome α}
    (h : run.effect k = some (.answer call outcome)) (hb : k ≤ b) :
    run.effect b ≠ some (.fetch call) := by
  intro hf
  rcases Nat.eq_or_lt_of_le hb with rfl | hb
  · rw [h] at hf
    cases hf
  · obtain ⟨event, he, t⟩ := run.event_of_effect hf
    rcases t.fetch_cases with ⟨caller, asks, rfl, -⟩ | ⟨caller, -, holds, hc, -⟩
    · obtain ⟨j, hj, hbegin⟩ := begins_of_answer h
      have := run.begins_unique hbegin (Enters.begins ⟨event, he, asks⟩)
      omega
    · exact not_mem_queue_of_answer h hb caller (FairLock.mem_queue_of_holder holds) hc

/-- The fetch that ends in a step is the one of the call that is answered. -/
theorem fetchesOnce_of_finish {k call : Nat} {outcome ended : Outcome α}
    (he : run.event k = some (.finish ended))
    (hk : run.effect k = some (.answer call outcome)) : run.FetchesOnce k call outcome := by
  rcases run.turn_cases k with ⟨hn, -⟩ | ⟨event, he', turn⟩
  · rw [he] at hn
    cases hn
  · rw [he] at he'
    cases he'
    cases turn with
    | idle _ _ unlanded _ =>
      rw [unlanded ended rfl] at hk
      cases hk
    | invalidate _ hf _ | fetch _ hf _ _ | drop _ _ hf _ _ =>
      rw [hk] at hf
      cases hf
    | land flight outcome' _ hf aloft hh =>
      rw [hk] at hf
      cases hf
      obtain ⟨-, hb, -⟩ := flight_spec_of_running (show run.running k = [flight] from aloft)
      refine ⟨⟨flight, k, run.clock k, outcome⟩, by rw [landed, hh]; rfl, rfl, rfl, rfl, ?_⟩
      intro b
      exact ⟨fun h => fetch_unique h hb, fun h => h ▸ hb⟩

/-- A call that waits at the lock without a fetch has fetched nothing. -/
theorem fetchesNothing_of_idle {k : Nat} {caller : Caller} {outcome : Outcome α}
    (holds : (run.state k).lock.holder = some caller) (idle : (run.state k).flight = none)
    (hk : run.effect k = some (.answer caller.call outcome)) : run.FetchesNothing caller.call := by
  intro b hb
  rcases Nat.lt_or_ge b k with hlt | hge
  · have hr := running_of_mem_queue hb hlt (FairLock.mem_queue_of_holder holds) rfl
    rw [running, (run.tied k).grounded idle] at hr
    cases hr
  · exact not_fetch_of_answer hk hge hb

/-! ## Being handed the lock -/

theorem landed_succ_of_idle {n : Nat} (idle : (run.state n).flight = none) :
    run.landed (n + 1) = run.landed n := by
  rcases run.landed_succ n with hl | ⟨flight, outcome, -, -, hr, -⟩
  · exact hl
  · rw [running, (run.tied n).grounded idle] at hr
    cases hr

/-- Between the moment a caller is handed the lock and its turn no fetch ends. -/
theorem granted_of_idle {n : Nat} {caller : Caller}
    (holds : (run.state n).lock.holder = some caller) (idle : (run.state n).flight = none) :
    ∃ g < n, run.Granted g caller.call ∧ run.landed (g + 1) = run.landed n := by
  induction n generalizing caller with
  | zero => cases holds
  | succ n ih =>
    by_cases held : (run.state n).lock.holder.map (·.call) = some caller.call
    · obtain ⟨other, ho, hc⟩ := Option.map_eq_some_iff.1 held
      have hf : (run.state n).flight = none := by
        by_contra aloft
        obtain ⟨generation, hg⟩ := Option.ne_none_iff_exists'.1 aloft
        obtain ⟨b, hb, hf, -⟩ := running_of_holder ho hg
        -- a call that has fetched is not at the lock without its fetch
        have hr := running_of_mem_queue hf (Nat.lt_succ_of_lt hb)
          (FairLock.mem_queue_of_holder holds) hc.symm
        rw [running, (run.tied (n + 1)).grounded idle] at hr
        cases hr
      obtain ⟨g, hg, granted, hl⟩ := ih ho hf
      exact ⟨g, by omega, hc ▸ granted, by rw [hl, landed_succ_of_idle hf]⟩
    · exact ⟨n, Nat.lt_succ_self n, ⟨by rw [holds]; rfl, held⟩, rfl⟩

/-- A call is handed the lock after the step it begins in, unless it fetches in that step. -/
theorem lt_of_granted {j g call : Nat} {event : Event α} (he : run.event j = some event)
    (hb : event.begins? = some call) (nothing : run.FetchesNothing call)
    (granted : run.Granted g call) : j < g := by
  obtain ⟨hg, hn⟩ := granted
  obtain ⟨caller, holds, hc⟩ := Option.map_eq_some_iff.1 hg
  obtain ⟨j', hj', hb'⟩ := begins_of_mem_queue (FairLock.mem_queue_of_holder holds)
  have hj : j = j' := run.begins_unique (by rw [Begins, he]; exact hb) (hc ▸ hb')
  refine lt_of_le_of_ne (by omega) ?_
  rintro rfl
  have t := run.transition he
  generalize run.state (j + 1) = next at t holds
  generalize hf : run.effect j = effect at t
  cases t with
  | hit => exact hn (by rw [holds, Option.map_some, hc])
  | start asks _ =>
    obtain rfl := Option.some.inj (asks.begins.symm.trans hb)
    exact nothing j hf
  | wait asks held =>
    rw [FairLock.holder_claim_of_held held] at holds
    exact hn (by rw [holds, Option.map_some, hc])
  | invalidate | join | launch | rest | land | lost | drop => cases hb

/-! ## Answers -/

/-- Whoever joins at step `k` takes over the outcome of the fetch that ended last, which is one
that ended after its call began. -/
theorem join_spec {k : Nat} {caller : Caller} {outcome : Outcome α}
    (holds : (run.state k).lock.holder = some caller)
    (shared : (run.state k).shared? caller.demand = some outcome) :
    ∃ j landing, run.event j = some (.read caller.call) ∧ (run.landed k).head? = some landing ∧
      landing.outcome = outcome ∧ j < landing.ended := by
  obtain ⟨j, hj, event, he, asks⟩ := enters_of_mem_queue (FairLock.mem_queue_of_holder holds)
  cases asks with
  | refresh => simp [shared?] at shared
  | @read call stale =>
    simp only [shared?] at shared
    split at shared
    · cases shared
    · rename_i more
      rw [(run.tied k).remembered] at shared
      obtain ⟨landing, hl, ho⟩ := Option.map_eq_some_iff.1 shared
      refine ⟨j, landing, he, hl, ho, ?_⟩
      rw [(run.tied k).completed, (run.tied j).completed] at more
      -- more fetches have ended than when the call began, so the last one ended since then
      obtain ⟨new, hn, hm⟩ := run.landed_append hj.le
      unfold landed at hn
      rw [hn] at hl more
      have hmem : landing ∈ new := by
        cases new with
        | nil => simp at more
        | cons first new =>
          obtain rfl := Option.some.inj hl
          exact List.mem_cons_self
      refine lt_of_le_of_ne (hm landing hmem) ?_
      rintro rfl
      have hle : landing ∈ run.landed k := by
        rw [landed, hn]
        exact List.mem_append_left _ hmem
      rw [(landing_spec hle).2.2.1] at he
      cases he

theorem fetchesOnce_of_refresh {j k call : Nat} {outcome : Outcome α}
    (hj : run.event j = some (.refresh call))
    (hk : run.effect k = some (.answer call outcome)) : run.FetchesOnce k call outcome := by
  obtain ⟨event, he, t⟩ := run.event_of_effect hk
  rcases t.answer_cases (run.tied k).fair with ⟨_, rfl, -⟩ |
    ⟨caller, rfl, holds, -, ⟨-, -, shared⟩ | ⟨rfl, -⟩⟩
  · obtain rfl : j = k := run.begins_unique (begins_of_refresh hj) (begins_of_read he)
    rw [hj] at he
    cases he
  · obtain ⟨j', landing, he', -⟩ := join_spec holds shared
    obtain rfl : j = j' := run.begins_unique (begins_of_refresh hj) (begins_of_read he')
    rw [hj] at he'
    cases he'
  · exact fetchesOnce_of_finish he hk

/-- A read is answered in one of three ways. -/
theorem read_answered {j k call : Nat} {outcome : Outcome α}
    (hj : run.event j = some (.read call)) (hk : run.effect k = some (.answer call outcome)) :
    run.Hits j k call outcome ∨ run.FetchesOnce k call outcome ∨ run.Joins j k call outcome := by
  obtain ⟨event, he, t⟩ := run.event_of_effect hk
  rcases t.answer_cases (run.tied k).fair with ⟨value, rfl, rfl, fresh, -⟩ |
    ⟨caller, rfl, holds, -, ⟨-, idle, shared⟩ | ⟨rfl, -⟩⟩
  · obtain rfl : j = k := run.begins_unique (begins_of_read hj) (begins_of_read he)
    refine .inl ⟨rfl, ?_, value, rfl, fresh⟩
    intro b hb
    obtain ⟨j', hj', hb'⟩ := begins_of_fetch hb
    obtain rfl : j = j' := run.begins_unique (begins_of_read hj) hb'
    exact not_fetch_of_answer hk hj' hb
  · obtain ⟨j', landing, he', hl, ho, hlt⟩ := join_spec holds shared
    obtain rfl : j = j' := run.begins_unique (begins_of_read hj) (begins_of_read he')
    have nothing := fetchesNothing_of_idle holds idle hk
    obtain ⟨g, hg, granted, hlg⟩ := granted_of_idle holds idle
    exact .inr (.inr ⟨nothing, g, landing, lt_of_granted hj rfl nothing granted, hg, granted,
      by rw [hlg, hl], ho, hlt⟩)
  · exact .inr (.inl (fetchesOnce_of_finish he hk))

/-! ## Meeting a fetch -/

/-- A fetch that runs goes on running until it has ended, unless its call is dropped. -/
theorem flies_or_lands {j n : Nat} {flight : Flight} (hr : run.running j = [flight])
    (kept : ∀ m, run.event m ≠ some (.drop flight.call)) (hjn : j ≤ n) :
    run.running n = [flight] ∨
      ∃ landing ∈ run.landed n, landing.toFlight = flight ∧ j ≤ landing.ended := by
  induction n, hjn using Nat.le_induction with
  | base => exact .inl hr
  | succ n hjn ih =>
    rcases ih with ih | ⟨landing, hm, hf, hended⟩
    · unfold running landed at *
      rcases run.turn_cases n with ⟨-, -, hh⟩ | ⟨event, he, turn⟩
      · exact .inl (by rw [hh, ih])
      · cases turn with
        | idle _ _ _ hh | invalidate _ _ hh => exact .inl (by rw [hh, ih])
        | fetch _ _ grounded _ =>
          rw [ih] at grounded
          cases grounded
        | land other outcome _ _ aloft hh =>
          rw [ih] at aloft
          cases aloft
          exact .inr ⟨_, by rw [hh]; exact List.mem_cons_self, rfl, hjn⟩
        | drop other event_eq _ aloft _ =>
          rw [ih] at aloft
          cases aloft
          exact absurd (by rw [he, event_eq]) (kept n)
    · obtain ⟨new, hn, -⟩ := run.landed_append (Nat.le_succ n)
      exact .inr ⟨landing, by rw [hn]; exact List.mem_append_right _ hm, hf, hended⟩

/-- The fetch that runs belongs to the holder of the lock. -/
theorem holder_of_running {n : Nat} {flight : Flight} (hr : run.running n = [flight]) :
    ∃ caller, (run.state n).lock.holder = some caller ∧ caller.call = flight.call := by
  have aloft : (run.state n).flight ≠ none := by
    intro idle
    rw [running, (run.tied n).grounded idle] at hr
    cases hr
  obtain ⟨generation, hg⟩ := Option.ne_none_iff_exists'.1 aloft
  obtain ⟨caller, began, holds, hr'⟩ := (run.tied n).aloft generation hg
  rw [running, hr'] at hr
  cases hr
  exact ⟨caller, holds, rfl⟩

theorem Enters.eq_of_read {j call : Nat} {caller : Caller} (enters : run.Enters j caller)
    (hj : run.event j = some (.read call)) : caller = ⟨call, .read (run.state j).completed⟩ := by
  obtain ⟨event, he, asks⟩ := enters
  rw [hj] at he
  cases he
  cases asks
  rfl

/-- A fetch that has ended since a reader began is there to be taken over. -/
theorem shared_of_landed {i n seen call : Nat} (enters : run.Enters i ⟨call, .read seen⟩)
    (more : (run.landed i).length < (run.landed n).length) :
    (run.state n).shared? (.read seen) ≠ none := by
  intro alone
  obtain ⟨event, -, asks⟩ := enters
  cases asks with
  | read stale =>
    simp only [shared?, (run.tied n).completed, (run.tied i).completed] at alone
    rw [if_neg (by unfold landed at more; omega), (run.tied n).remembered] at alone
    simp only [Option.map_eq_none_iff, List.head?_eq_none_iff] at alone
    rw [landed, landed, alone] at more
    simp at more

section Meeting

variable {j : Nat} {flight : Flight} (hr : run.running j = [flight])
  (kept : ∀ n, run.event n ≠ some (.drop flight.call))
include hr kept

/-- Of those that came before the fetch ended only refreshes fetch after it. -/
theorem refresh_of_launch {i m : Nat} {caller : Caller} (enters : run.Enters i caller)
    (hij : i ≤ j) (hjm : j ≤ m) (idle : (run.state m).flight = none)
    (alone : (run.state m).shared? caller.demand = none) : caller.demand = .refresh := by
  obtain ⟨call, demand⟩ := caller
  cases demand with
  | refresh => rfl
  | read seen =>
    rcases flies_or_lands hr kept hjm with aloft | ⟨landing, hm, -, hended⟩
    · rw [running, (run.tied m).grounded idle] at aloft
      cases aloft
    · obtain ⟨new, hn, -⟩ := run.landed_append (show i ≤ m by omega)
      have added : landing ∈ new := by
        rw [hn] at hm
        rcases List.mem_append.1 hm with hm | hm
        · exact hm
        · have := (landing_spec hm).1
          omega
      refine absurd alone (shared_of_landed enters ?_)
      rw [hn, List.length_append]
      have := List.length_pos_of_mem added
      omega

/-- A read that begins while a fetch runs fetches nothing, unless that fetch is dropped. -/
theorem fetchesNothing_of_meeting {call : Nat} (hj : run.event j = some (.read call)) :
    run.FetchesNothing call := by
  intro b hb
  obtain ⟨holder, hholds, -⟩ := holder_of_running hr
  obtain ⟨event, he, t⟩ := run.event_of_effect hb
  rcases t.fetch_cases with ⟨caller, asks, rfl, free⟩ | ⟨caller, -, holds, rfl, idle, alone⟩
  · have begun : run.Begins b caller.call := Enters.begins ⟨event, he, asks⟩
    obtain rfl : j = b := run.begins_unique (begins_of_read hj) begun
    rw [hholds] at free
    cases free
  · obtain ⟨i, hi, enters⟩ := enters_of_mem_queue (FairLock.mem_queue_of_holder holds)
    obtain rfl : j = i := run.begins_unique (begins_of_read hj) enters.begins
    have refreshes := refresh_of_launch hr kept enters le_rfl hi.le idle alone
    rw [enters.eq_of_read hj] at refreshes
    cases refreshes

end Meeting

/-- Without drops a read that begins while a fetch runs fetches nothing. -/
theorem fetchesNothing_of_running (undropped : run.Undropped) {j call : Nat}
    (hj : run.event j = some (.read call)) (hr : run.running j ≠ []) :
    run.FetchesNothing call := by
  have single : (run.running j).length = 1 := by
    have := run.length_running_le j
    have := List.length_pos_iff.2 hr
    omega
  obtain ⟨flight, hr⟩ := List.length_eq_one_iff.1 single
  exact fetchesNothing_of_meeting hr (fun n => undropped n flight.call) hj

/-! ## All together -/

/-- How the calls of a run get their answers. -/
structure Coalesced (run : Run α) : Prop where
  /-- One fetch runs at a time. -/
  single : ∀ n, (run.running n).length ≤ 1
  refresh : ∀ {j k call outcome}, run.event j = some (.refresh call) →
    run.effect k = some (.answer call outcome) → run.FetchesOnce k call outcome
  read : ∀ {j k call outcome}, run.event j = some (.read call) →
    run.effect k = some (.answer call outcome) →
    run.Hits j k call outcome ∨ run.FetchesOnce k call outcome ∨ run.Joins j k call outcome
  /-- A read that meets a fetch does not fetch. -/
  meets : ∀ {j call}, run.event j = some (.read call) → run.running j ≠ [] →
    run.FetchesNothing call
  /-- Nobody waits for ever. -/
  answered : run.Fair → ∀ {j call}, run.Begins j call →
    ∃ k outcome, j ≤ k ∧ run.effect k = some (.answer call outcome)

/-- Fetches are coalesced: in a run without drops one fetch runs at a time, refreshes fetch for
themselves, and reads share what there is to share. -/
theorem coalesced (run : Run α) (undropped : run.Undropped) : run.Coalesced where
  single := run.length_running_le
  refresh := fetchesOnce_of_refresh
  read := read_answered
  meets := fetchesNothing_of_running undropped
  answered := fun fair _ _ h => answered_of_begins undropped fair h

/-- Two reads and a refresh meet: the second read shares what the first fetched, and the refresh
fetches once more. -/
def burst : Run Nat := ofEvents 30000
  [.read 0, .read 1, .refresh 2, .finish (.ok 5), .resume, .resume, .finish (.ok 6)] (by decide)

theorem burst_coalesced : burst.Undropped ∧ burst.Coalesced ∧
    burst.effect 4 = some (.answer 1 (.ok 5)) ∧ burst.effect 6 = some (.answer 2 (.ok 6)) := by
  have undropped : burst.Undropped := by
    intro n call h
    have := List.mem_of_getElem? h
    simp at this
  exact ⟨undropped, coalesced burst undropped, rfl, rfl⟩

end Fleet.Cache.Run

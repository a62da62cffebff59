/-
Reads that meet a fetch. A read that finds nothing fresh while a fetch runs waits behind everyone
who is at the lock, fetches nothing, and takes over the outcome of the fetch that has ended last
when its turn comes (`read_meets_fetch`). That is the fetch it met, unless a refresh was waiting
when it came: the refresh fetches once more, and the read gets the outcome of that
fetch (`not_shared_behind_refresh`).
-/
import Fleet.Proofs.Cache.Source

namespace Fleet.Cache.Run

variable {α : Type} {run : Run α}

/-! ## Standing in the queue -/

/-- What stands at the lock in step `n`, when the caller has come to the end of the queue of step
`j`: some of those that stood there in step `j`, then the caller, then others. -/
structure Behind (run : Run α) (j n : Nat) (caller : Caller) (front back : List Caller) : Prop where
  queue : (run.state n).lock.queue = front ++ caller :: back
  earlier : ∀ other ∈ front, other ∈ (run.state j).lock.queue
  /-- Whoever has left the front has been answered or dropped. -/
  left : ∀ other ∈ (run.state j).lock.queue, other ∈ front ∨
    (∃ m outcome, j ≤ m ∧ m < n ∧ run.effect m = some (.answer other.call outcome)) ∨
    ∃ m, run.event m = some (.drop other.call)

section Behind

variable {j n : Nat} {caller : Caller} {front back : List Caller}

/-- Nobody gets ahead of a caller in one step. -/
theorem Behind.succ (behind : run.Behind j n caller front back) (hjn : j ≤ n)
    (waits : caller ∈ (run.state (n + 1)).lock.queue) :
    ∃ front back, run.Behind j (n + 1) caller front back := by
  obtain ⟨queue, earlier, left⟩ := behind
  rcases ahead_succ queue with ends | ⟨front', back', queue', sub, gone⟩
  · -- the caller itself would have left the lock
    obtain ⟨i, hi, begun⟩ :=
      begins_of_mem_queue (n := n) (by rw [queue]; exact List.mem_append_cons_self)
    exact absurd rfl
      (not_mem_queue_of_ends begun hi.le ends (Nat.lt_succ_self n) caller waits)
  · refine ⟨front', back', queue', fun other h => earlier other (sub.subset h), ?_⟩
    intro other h
    rcases left other h with h | ⟨m, outcome, hjm, hmn, he⟩ | h
    · rcases gone other h with h | ⟨outcome, answers⟩ | dropped
      · exact .inl h
      · exact .inr (.inl ⟨n, outcome, hjn, Nat.lt_succ_self n, answers⟩)
      · exact .inr (.inr ⟨n, dropped⟩)
    · exact .inr (.inl ⟨m, outcome, hjm, by omega, he⟩)
    · exact .inr (.inr h)

/-- Nobody gets ahead of a caller that waits. -/
theorem exists_behind (begun : run.Begins j caller.call)
    (joins : (run.state (j + 1)).lock.queue = (run.state j).lock.queue ++ [caller])
    (hjn : j + 1 ≤ n) (waits : caller ∈ (run.state n).lock.queue) :
    ∃ front back, run.Behind j n caller front back := by
  induction n, hjn using Nat.le_induction with
  | base => exact ⟨_, [], joins, fun _ h => h, fun _ h => .inl h⟩
  | succ n hjn ih =>
    obtain ⟨front, back, behind⟩ := ih (mem_queue_between begun hjn (Nat.le_succ n) waits)
    exact behind.succ (by omega) waits

end Behind

/-! ## Meeting a fetch -/

/-- The call waits at the lock to refresh. -/
def WaitsToRefresh (run : Run α) (n call : Nat) : Prop :=
  ⟨call, .refresh⟩ ∈ (run.state n).lock.waiting

/-- The read that begins in step `j` while the fetch runs, and is answered in step `k`. -/
structure Shares (run : Run α) (j k call : Nat) (flight : Flight) (outcome : Outcome α) :
    Prop where
  nothing : run.FetchesNothing call
  /-- The fetch has ended by then. -/
  landed : ∃ landing ∈ run.landed k, landing.toFlight = flight ∧ j < landing.ended
  /-- The outcome is that of the fetch, or of a refresh that was waiting when the read began. -/
  source : ∃ last, run.source k = some last ∧ last.outcome = outcome ∧
    (last.toFlight = flight ∨ run.WaitsToRefresh j last.call)
  /-- If no refresh was waiting, it is that of the fetch. -/
  alone : (∀ other, ¬ run.WaitsToRefresh j other) →
    ∃ landing ∈ run.landed k, landing.toFlight = flight ∧ landing.outcome = outcome
  /-- If a refresh was waiting and is not dropped, it is that of another fetch. -/
  overtaken : ∀ other, run.WaitsToRefresh j other → (∀ n, run.event n ≠ some (.drop other)) →
    ∀ last, run.source k = some last → last.toFlight ≠ flight

/-- What comes of a read that begins in step `j` while the fetch runs. -/
structure Meets (run : Run α) (j call : Nat) (flight : Flight) : Prop where
  shares : ∀ {k outcome}, run.effect k = some (.answer call outcome) →
    run.Shares j k call flight outcome
  /-- It is answered, unless callers are dropped or somebody waits for ever. -/
  answered : run.Undropped → run.Fair →
    ∃ k outcome, j ≤ k ∧ run.effect k = some (.answer call outcome)

theorem Enters.event_eq_of_refresh {j call : Nat} (enters : run.Enters j ⟨call, .refresh⟩) :
    run.event j = some (.refresh call) := by
  obtain ⟨event, he, asks⟩ := enters
  cases asks
  exact he

section Meeting

variable {j call : Nat} {flight : Flight} (hr : run.running j = [flight])
  (kept : ∀ n, run.event n ≠ some (.drop flight.call)) (hj : run.event j = some (.read call))
  (stale : (run.state j).fresh? (run.clock j) = none)
include hr kept hj stale

omit kept in
/-- The read waits behind everyone who is at the lock. -/
theorem joins_of_meeting : run.Enters j ⟨call, .read (run.state j).completed⟩ ∧
    (run.state (j + 1)).lock.queue =
      (run.state j).lock.queue ++ [⟨call, .read (run.state j).completed⟩] := by
  obtain ⟨holder, holds, -⟩ := holder_of_running hr
  refine ⟨⟨_, hj, .read stale⟩, ?_⟩
  have t := run.transition hj
  generalize run.state (j + 1) = next at t ⊢
  generalize run.effect j = effect at t
  cases t with
  | hit fresh =>
    rw [stale] at fresh
    cases fresh
  | start asks free =>
    rw [holds] at free
    cases free
  | wait asks held =>
    cases asks
    exact FairLock.queue_claim (run.tied j).fair _

/-- While the read waits, only refreshes that were waiting when it began fetch. -/
theorem waitsToRefresh_of_fetch {m other : Nat} (hjm : j ≤ m)
    (waits : ⟨call, .read (run.state j).completed⟩ ∈ (run.state (m + 1)).lock.queue)
    (hf : run.effect m = some (.fetch other)) : run.WaitsToRefresh j other := by
  obtain ⟨enters, joins⟩ := joins_of_meeting hr hj stale
  obtain ⟨holder, hholds, hc⟩ := holder_of_running hr
  have hjm : j < m := by
    refine lt_of_le_of_ne hjm ?_
    rintro rfl
    rw [(running_of_fetch hf).1] at hr
    cases hr
  have waited := mem_queue_between enters.begins hjm (Nat.le_succ m) waits
  obtain ⟨front, back, queue, earlier, -⟩ := exists_behind enters.begins joins hjm waited
  obtain ⟨event, he, t⟩ := run.event_of_effect hf
  rcases t.fetch_cases with ⟨caller, asks, rfl, free⟩ | ⟨caller, -, holds, rfl, idle, alone⟩
  · -- the lock is not free while the read waits for it
    rw [FairLock.holder_eq_head? (run.tied m).fair, queue] at free
    simp at free
  · rw [FairLock.holder_eq_head? (run.tied m).fair, queue] at holds
    cases front with
    | nil =>
      obtain rfl := Option.some.inj holds
      exact absurd hf (fetchesNothing_of_meeting hr kept hj m)
    | cons first front =>
      obtain rfl := Option.some.inj holds
      have hm := earlier first List.mem_cons_self
      obtain ⟨i, hi, enters'⟩ := enters_of_mem_queue hm
      have refreshes := refresh_of_launch hr kept enters' hi.le hjm.le idle alone
      rw [FairLock.queue_of_holder hholds] at hm
      rcases List.mem_cons.1 hm with rfl | hm
      · -- the holder has fetched already
        obtain ⟨hb, hfl, -⟩ := flight_spec_of_running hr
        rw [hc] at hf
        have := fetch_unique hf hfl
        omega
      · obtain ⟨number, demand⟩ := first
        obtain rfl : demand = .refresh := refreshes
        exact hm

variable {k : Nat} {outcome : Outcome α} (hk : run.effect k = some (.answer call outcome))
include hk

/-- The read is answered when its turn comes, with the outcome of the fetch that ended last. -/
theorem answer_of_meeting : ∃ landing,
    (run.state k).lock.holder = some ⟨call, .read (run.state j).completed⟩ ∧
    (run.state k).flight = none ∧ run.source k = some landing ∧
    (run.landed k).head? = some landing ∧ landing.outcome = outcome ∧ j < landing.ended := by
  obtain ⟨event, he, t⟩ := run.event_of_effect hk
  rcases t.answer_cases (run.tied k).fair with ⟨_, rfl, -, fresh, -⟩ |
    ⟨caller, rfl, holds, -, ⟨rfl, idle, shared⟩ | ⟨rfl, -⟩⟩
  · obtain rfl : j = k := run.begins_unique (begins_of_read hj) (begins_of_read he)
    rw [stale] at fresh
    cases fresh
  · obtain ⟨i, landing, hi, hl, ho, hlt⟩ := join_spec holds shared
    obtain rfl : j = i := run.begins_unique (begins_of_read hj) (begins_of_read hi)
    obtain ⟨i, -, enters⟩ := enters_of_mem_queue (FairLock.mem_queue_of_holder holds)
    obtain rfl : j = i := run.begins_unique (begins_of_read hj) enters.begins
    refine ⟨landing, ?_, idle, ?_, hl, ho, hlt⟩
    · rw [holds, ← enters.eq_of_read hj]
    · rw [source, he]
      simp only
      rw [landed_succ_of_idle idle, hl]
  · -- it would have fetched itself
    obtain ⟨landing, -, -, -, -, hf⟩ := fetchesOnce_of_finish he hk
    exact absurd ((hf _).2 rfl) (fetchesNothing_of_meeting hr kept hj _)

theorem landed_of_meeting :
    ∃ landing ∈ run.landed k, landing.toFlight = flight ∧ j < landing.ended := by
  obtain ⟨last, holds, idle, -⟩ := answer_of_meeting hr kept hj stale hk
  obtain ⟨i, hi, enters⟩ := enters_of_mem_queue (FairLock.mem_queue_of_holder holds)
  obtain rfl : j = i := run.begins_unique (begins_of_read hj) enters.begins
  rcases flies_or_lands hr kept hi.le with aloft | ⟨landing, hm, hf, hended⟩
  · rw [running, (run.tied k).grounded idle] at aloft
    cases aloft
  · refine ⟨landing, hm, hf, lt_of_le_of_ne hended ?_⟩
    -- in step `j` a call begins, so no fetch ends in it
    rintro rfl
    have he := (landing_spec hm).2.2.1
    rw [hj] at he
    cases he

/-- The outcome is that of the fetch, or of a refresh that was waiting when the read began. -/
theorem source_of_meeting : ∃ last, run.source k = some last ∧ last.outcome = outcome ∧
    (last.toFlight = flight ∨ run.WaitsToRefresh j last.call) := by
  obtain ⟨last, holds, idle, hs, hl, ho, hended⟩ := answer_of_meeting hr kept hj stale hk
  have hm : last ∈ run.landed k := List.mem_of_head? hl
  refine ⟨last, hs, ho, ?_⟩
  by_cases hb : last.began < j
  · exact .inl (flight_of_landing hr hm hb hended.le)
  · obtain ⟨hlt, hr', -⟩ := landing_spec hm
    obtain ⟨hbe, hf, -⟩ := flight_spec_of_running hr'
    have waits : ⟨call, .read (run.state j).completed⟩ ∈ (run.state (last.began + 1)).lock.queue :=
      mem_queue_between (begins_of_read hj) (by omega) (by omega) (FairLock.mem_queue_of_holder holds)
    exact .inr (waitsToRefresh_of_fetch hr kept hj stale (by omega) waits hf)

/-- A refresh that was waiting has fetched by the time the read is answered. -/
theorem overtaken_of_meeting {other : Nat} (waits : run.WaitsToRefresh j other)
    (undropped : ∀ n, run.event n ≠ some (.drop other)) {last : Landing α}
    (hs : run.source k = some last) : last.toFlight ≠ flight := by
  obtain ⟨latest, holds, idle, hs', hl, -, hended⟩ := answer_of_meeting hr kept hj stale hk
  obtain rfl : last = latest := Option.some.inj (hs.symm.trans hs')
  obtain ⟨holder, hholds, hc⟩ := holder_of_running hr
  have queue := FairLock.queue_of_holder hholds
  have earlier : ⟨other, .refresh⟩ ∈ (run.state j).lock.queue := by
    rw [queue]
    exact List.mem_cons_of_mem _ waits
  obtain ⟨i, hi, enters⟩ := enters_of_mem_queue earlier
  -- the read is at the front now, so everyone ahead of it has left the lock
  have waiting := FairLock.mem_queue_of_holder holds
  obtain ⟨i', hi', enters'⟩ := enters_of_mem_queue waiting
  obtain rfl : j = i' := run.begins_unique (begins_of_read hj) enters'.begins
  obtain ⟨front, back, behind⟩ := exists_behind enters'.begins
    (joins_of_meeting hr hj stale).2 (by omega) waiting
  have first : front = [] := by
    rw [FairLock.holder_eq_head? (run.tied k).fair, behind.queue] at holds
    cases front with
    | nil => rfl
    | cons head front =>
      obtain rfl := Option.some.inj holds
      exact absurd rfl (front_not_mem behind.queue (by simp))
  rcases behind.left _ earlier with h | ⟨m, outcome', hjm, hmk, answers⟩ | ⟨m, dropped⟩
  · rw [first] at h
    cases h
  · obtain ⟨landing, hlm, hcall, hm, -⟩ :=
      fetchesOnce_of_refresh enters.event_eq_of_refresh answers
    have mem : landing ∈ run.landed k := by
      obtain ⟨new, hn, -⟩ := run.landed_append (show m + 1 ≤ k by omega)
      rw [hn, hlm]
      exact List.mem_append_right _ List.mem_cons_self
    rintro rfl
    have apart := run.pairwise_landed k
    obtain ⟨rest, hrest⟩ := List.head?_eq_some_iff.1 hl
    rw [hrest] at mem apart
    rcases List.mem_cons.1 mem with rfl | mem
    · -- the holder of the lock does not wait for it
      refine front_not_mem queue waits ?_
      rw [hc]
      exact hcall.symm
    · have := List.rel_of_pairwise_cons apart mem
      obtain ⟨hb, -⟩ := flight_spec_of_running hr
      omega
  · exact absurd dropped (undropped m)

end Meeting

/-- A read that finds nothing fresh while a fetch runs shares the outcome of that fetch, or of the
last refresh that was waiting. -/
theorem read_meets_fetch {j call : Nat} {flight : Flight} (hj : run.event j = some (.read call))
    (stale : (run.state j).fresh? (run.clock j) = none) (hr : run.running j = [flight])
    (kept : ∀ n, run.event n ≠ some (.drop flight.call)) : run.Meets j call flight where
  shares := by
    intro k outcome hk
    refine ⟨fetchesNothing_of_meeting hr kept hj, landed_of_meeting hr kept hj stale hk,
      source_of_meeting hr kept hj stale hk, ?_, ?_⟩
    · intro unrefreshed
      obtain ⟨last, holds, idle, hs, hl, ho, hended⟩ := answer_of_meeting hr kept hj stale hk
      obtain ⟨last', hs', -, met | waits⟩ := source_of_meeting hr kept hj stale hk
      · obtain rfl : last = last' := Option.some.inj (hs.symm.trans hs')
        exact ⟨last, List.mem_of_head? hl, met, ho⟩
      · exact absurd waits (unrefreshed _)
    · intro other waits undropped last hs
      exact overtaken_of_meeting hr kept hj stale hk waits undropped hs
  answered undropped fair := answered_of_begins undropped fair (begins_of_read hj)

/-- A fetch runs, a refresh waits, and then a read comes. -/
def overtaken : Run Nat := ofEvents 30000
  [.read 0, .refresh 1, .read 2, .finish (.ok 1), .resume, .finish (.ok 2), .resume] (by decide)

theorem overtaken_read_meets_fetch : overtaken.event 2 = some (.read 2) ∧
    (overtaken.state 2).fresh? (overtaken.clock 2) = none ∧
    overtaken.running 2 = [⟨0, 0, 0⟩] ∧ (∀ n, overtaken.event n ≠ some (.drop 0)) ∧
    overtaken.effect 6 = some (.answer 2 (.ok 2)) ∧ overtaken.Meets 2 2 ⟨0, 0, 0⟩ := by
  have kept : ∀ n, overtaken.event n ≠ some (.drop 0) := by
    intro n h
    have := List.mem_of_getElem? h
    simp at this
  exact ⟨rfl, rfl, rfl, kept, rfl, read_meets_fetch rfl rfl rfl kept⟩

/-- Not every read that meets a fetch gets the outcome of that fetch. -/
theorem not_shared_behind_refresh : ¬ ∀ (run : Run Nat) (j k n call : Nat)
    (landing : Landing Nat) (outcome : Outcome Nat), run.event j = some (.read call) →
    (run.state j).fresh? (run.clock j) = none → run.running j = [landing.toFlight] →
    landing ∈ run.landed n → run.effect k = some (.answer call outcome) →
    outcome = landing.outcome := by
  intro h
  have hl : overtaken.landed 4 = [⟨⟨0, 0, 0⟩, 3, 3, .ok 1⟩] := rfl
  have same := h overtaken 2 6 4 2 ⟨⟨0, 0, 0⟩, 3, 3, .ok 1⟩ (.ok 2) rfl rfl rfl
    (by rw [hl]; exact List.mem_singleton_self _) rfl
  cases same

end Fleet.Cache.Run

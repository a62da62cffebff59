/-
Reading after an invalidation. A read that begins after an invalidation gets nothing that was
fetched before it, with one exception (`read_after_invalidate`): it joins a fetch that was still
running when it began. The exception is real (`joined_before_invalidate`).
-/
import Fleet.Proofs.Cache.Source

namespace Fleet.Cache.Run

variable {α : Type} {run : Run α}

/-- An invalidation begins no fetch. -/
theorem ne_began_of_invalidate {i n : Nat} {landing : Landing α}
    (hi : run.event i = some .invalidate) (hm : landing ∈ run.landed n) : i ≠ landing.began := by
  rintro rfl
  obtain ⟨-, hr, -⟩ := landing_spec hm
  obtain ⟨-, hb, -⟩ := flight_spec_of_running hr
  have t := run.transition hi
  rw [hb] at t
  rcases t.fetch_cases with ⟨_, asks, -⟩ | ⟨_, hn, -⟩
  · cases asks
  · cases hn

/-- A fetch that ended before a step, with no invalidation between its beginning and that step,
began after every earlier invalidation. -/
theorem lt_began_of_generation {i n : Nat} {landing : Landing α}
    (hi : run.event i = some .invalidate) (hin : i < n) (hm : landing ∈ run.landed n)
    (hg : landing.generation = run.invalidations n) : i < landing.began := by
  obtain ⟨-, hr, -⟩ := landing_spec hm
  obtain ⟨-, -, hb⟩ := flight_spec_of_running hr
  by_contra h
  have hle : run.invalidations landing.began ≤ run.invalidations i := invalidations_le (by omega)
  have hlt := invalidations_lt hi hin
  omega

/-- As long as nothing has been fetched since an invalidation, nothing is fresh. -/
theorem stale_of_unfetched {i j call : Nat} (hi : run.event i = some .invalidate) (hij : i < j)
    (hj : run.event j = some (.read call))
    (unfetched : ∀ b, i < b → b < j → ∀ other, run.effect b ≠ some (.fetch other)) :
    (run.state j).fresh? (run.clock j) = none := by
  by_contra fresh
  obtain ⟨value, fresh⟩ := Option.ne_none_iff_exists'.1 fresh
  obtain ⟨landing, hm, -, -, hg⟩ := source_of_fresh hj fresh
  obtain ⟨hended, hr, -⟩ := landing_spec hm
  obtain ⟨hbegan, hf, -⟩ := flight_spec_of_running hr
  exact unfetched landing.began (lt_began_of_generation hi hij hm hg) (by omega) _ hf

/-! ## Reading when nothing is fresh -/

section Stale

variable {j call : Nat} (hj : run.event j = some (.read call))
  (stale : (run.state j).fresh? (run.clock j) = none)
include hj stale

/-- With nobody ahead of it the read fetches at once. -/
theorem fetch_of_stale (free : (run.state j).lock.holder = none) :
    run.effect j = some (.fetch call) := by
  simp [Run.effect, hj, step, read, stale, enter, FairLock.isFree, free, launch]

/-- If no fetch runs, the read is answered with what a fetch comes to that begins with the read or
later. -/
theorem answer_of_stale (grounded : run.running j = []) {k : Nat} {outcome : Outcome α}
    (hk : run.effect k = some (.answer call outcome)) :
    ∃ landing ∈ run.landed (k + 1), landing.outcome = outcome ∧ j ≤ landing.began := by
  rcases read_answered hj hk with ⟨-, -, value, -, fresh⟩ | ⟨landing, hl, -, -, ho, hf⟩ |
    ⟨-, g, landing, -, hgk, -, hl, ho, hended⟩
  · rw [stale] at fresh
    cases fresh
  · refine ⟨landing, by rw [hl]; exact List.mem_cons_self, ho, ?_⟩
    obtain ⟨j', hj', hbegin⟩ := begins_of_fetch ((hf landing.began).2 rfl)
    obtain rfl : j = j' := run.begins_unique (begins_of_read hj) hbegin
    exact hj'
  · have hm : landing ∈ run.landed (g + 1) := List.mem_of_head? hl
    obtain ⟨new, hn, -⟩ := run.landed_append (show g + 1 ≤ k + 1 by omega)
    refine ⟨landing, by rw [hn]; exact List.mem_append_right _ hm, ho, ?_⟩
    by_contra h
    -- it would have been running when the read began
    obtain ⟨-, hr, -⟩ := landing_spec hm
    have runs := running_between (by rw [hr]; exact List.mem_singleton_self _)
      (show landing.began < j by omega) hended.le
    rw [grounded] at runs
    cases runs

end Stale

/-! ## After an invalidation -/

/-- A read that begins after an invalidation gets a value whose fetch began after it, or it
fetches nothing and takes over a value whose fetch was running at the invalidation and still when
the read began. -/
theorem read_after_invalidate {i j k call : Nat} {value : α}
    (hi : run.event i = some .invalidate) (hij : i < j) (hj : run.event j = some (.read call))
    (hk : run.effect k = some (.answer call (.ok value))) :
    ∃ landing, run.source k = some landing ∧ landing.outcome = .ok value ∧
      (i < landing.began ∨
        run.FetchesNothing call ∧ landing.began < i ∧ j < landing.ended) := by
  obtain ⟨landing, hm, hs, ho, ⟨hl, hg⟩ | hb | ⟨nothing, -, he⟩⟩ := source_of_read hj hk
  · exact ⟨landing, hs, ho, .inl (lt_began_of_generation hi hij hl hg)⟩
  · exact ⟨landing, hs, ho, .inl (by omega)⟩
  · refine ⟨landing, hs, ho, ?_⟩
    have apart := ne_began_of_invalidate hi hm
    by_cases h : i < landing.began
    · exact .inl h
    · exact .inr ⟨nothing, by omega, he⟩

/-- A fetch runs, the cache is invalidated, and then a read comes and joins. -/
def overlap : Run Nat := ofEvents 30000
  [.read 0, .invalidate, .read 1, .finish (.ok 7), .resume] (by decide)

theorem overlap_read_after_invalidate : overlap.event 1 = some .invalidate ∧
    overlap.event 2 = some (.read 1) ∧ overlap.effect 4 = some (.answer 1 (.ok 7)) ∧
    ∃ landing, overlap.source 4 = some landing ∧ landing.outcome = .ok 7 ∧
      (1 < landing.began ∨
        overlap.FetchesNothing 1 ∧ landing.began < 1 ∧ 2 < landing.ended) :=
  ⟨rfl, rfl, rfl, read_after_invalidate (i := 1) (j := 2) rfl (by omega) rfl rfl⟩

/-- Not every value a read gets was fetched after the invalidations before the read. -/
theorem joined_before_invalidate : ¬ ∀ (run : Run Nat) (i j k call : Nat) (value : Nat),
    run.event i = some .invalidate → i < j → run.event j = some (.read call) →
    run.effect k = some (.answer call (.ok value)) →
    ∃ landing ∈ run.landed (k + 1), landing.outcome = .ok value ∧ i < landing.began := by
  intro h
  obtain ⟨landing, hm, -, hb⟩ := h overlap 1 2 4 1 7 rfl (by omega) rfl rfl
  have hl : overlap.landed 5 = [⟨⟨0, 0, 0⟩, 3, 3, .ok 7⟩] := rfl
  rw [hl] at hm
  obtain rfl := List.mem_singleton.1 hm
  exact absurd hb (by decide)

end Fleet.Cache.Run

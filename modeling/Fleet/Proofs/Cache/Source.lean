/-
The fetch an answer comes from (`source`): the last success for a hit, the fetch that ends for its
own call, the fetch that ended last for a join. Fetches do not overlap, so whatever ended last also
began last.
-/
import Fleet.Proofs.Cache.Coalescing

namespace Fleet.Cache

variable {α : Type}

/-! ## Where an answer comes from -/

/-- Whether the fetch gave a value. -/
def Landing.succeeded (landing : Landing α) : Bool := landing.outcome.isOk

theorem Landing.entry?_eq_some_iff {landing : Landing α} {entry : Entry α} :
    landing.entry? = some entry ↔ landing.outcome = .ok entry.value ∧
      landing.time = entry.fetchedAt ∧ landing.generation = entry.generation := by
  obtain ⟨value, fetchedAt, generation⟩ := entry
  unfold Landing.entry?
  cases landing.outcome <;> simp

/-- The entry is the one of the last success. -/
theorem find?_succeeded {landings : List (Landing α)} {entry : Entry α}
    (h : landings.findSome? Landing.entry? = some entry) :
    ∃ landing, landings.find? Landing.succeeded = some landing ∧ landing.entry? = some entry := by
  obtain ⟨before, landing, after, rfl, he, hb⟩ := List.findSome?_eq_some_iff.1 h
  refine ⟨landing, ?_, he⟩
  have failed : ∀ other ∈ before, ¬ other.succeeded = true := by
    intro other ho
    have := hb other ho
    unfold Landing.entry? at this
    unfold Landing.succeeded
    cases hc : other.outcome with
    | ok value => simp [hc] at this
    | error failure => simp [Except.isOk, Except.toBool]
  have succeeded : landing.succeeded = true := by
    unfold Landing.succeeded
    rw [(Landing.entry?_eq_some_iff.1 he).1]
    rfl
  rw [List.find?_append, List.find?_eq_none.2 failed, Option.none_or,
    List.find?_cons_of_pos succeeded]

namespace Run

variable {run : Run α}

/-! ## Fetches follow one another -/

/-- A fetch that runs has run ever since it began. -/
theorem running_between {m n : Nat} {flight : Flight} (h : flight ∈ run.running n)
    (hm : flight.began < m) (hmn : m ≤ n) : flight ∈ run.running m := by
  induction n, hmn using Nat.le_induction with
  | base => exact h
  | succ n hmn ih =>
    refine ih ?_
    unfold running at h ⊢
    rcases run.turn_cases n with ⟨-, -, hh⟩ | ⟨event, he, turn⟩
    · rw [hh] at h
      exact h
    · cases turn with
      | idle _ _ _ hh | invalidate _ _ hh =>
        rw [hh] at h
        exact h
      | fetch call _ _ hh =>
        rw [hh] at h
        obtain rfl := List.mem_singleton.1 h
        exact absurd hm (by simp only; omega)
      | land _ _ _ _ _ hh | drop _ _ _ _ hh =>
        rw [hh] at h
        cases h

/-- A fetch that ran before a step and ended after it is the one that runs at that step. -/
theorem flight_of_landing {j n : Nat} {flight : Flight} {landing : Landing α}
    (hr : run.running j = [flight]) (hm : landing ∈ run.landed n) (hb : landing.began < j)
    (he : j ≤ landing.ended) : landing.toFlight = flight := by
  obtain ⟨-, hl, -⟩ := landing_spec hm
  have runs := running_between (by rw [hl]; exact List.mem_singleton_self _) hb he
  rw [hr] at runs
  exact List.mem_singleton.1 runs

/-- A fetch that runs began after those that have ended. -/
theorem ended_lt_began {n : Nat} {flight : Flight} {landing : Landing α}
    (h : flight ∈ run.running n) (hl : landing ∈ run.landed n) : landing.ended < flight.began := by
  obtain ⟨hn, -, he, -⟩ := landing_spec hl
  by_contra hb
  have runs := running_between h (m := landing.ended + 1) (by omega) (by omega)
  rw [running_of_finish he] at runs
  cases runs

theorem pairwise_landed (run : Run α) (n : Nat) :
    (run.landed n).Pairwise fun later earlier => earlier.ended < later.began := by
  induction n with
  | zero => exact List.Pairwise.nil
  | succ n ih =>
    rcases run.landed_succ n with hl | ⟨flight, outcome, -, -, hr, hl⟩
    · rw [hl]
      exact ih
    · rw [hl, List.pairwise_cons]
      exact ⟨fun _ h => ended_lt_began (by rw [hr]; exact List.mem_singleton_self _) h, ih⟩

/-! ## The source of an answer -/

/-- The fetch whose value a call gets that is answered in a step: the last success if it begins in
this step, and otherwise the fetch that ended last, be it in this step. -/
def source (run : Run α) (n : Nat) : Option (Landing α) :=
  match run.event n with
  | some (.read _) => (run.landed n).find? Landing.succeeded
  | _ => (run.landed (n + 1)).head?

/-- A fresh value is that of the last success, and nothing has been invalidated since its fetch
began. -/
theorem source_of_fresh {n call : Nat} {value : α} (he : run.event n = some (.read call))
    (fresh : (run.state n).fresh? (run.clock n) = some value) :
    ∃ landing ∈ run.landed n, run.source n = some landing ∧ landing.outcome = .ok value ∧
      landing.generation = run.invalidations n := by
  obtain ⟨entry, hf, rfl⟩ := Option.map_eq_some_iff.1 fresh
  obtain ⟨hl, valid⟩ := Option.filter_eq_some_iff.1 hf
  rw [(run.tied n).latest] at hl
  obtain ⟨landing, hfind, hentry⟩ := find?_succeeded hl
  obtain ⟨ho, -, hg⟩ := Landing.entry?_eq_some_iff.1 hentry
  have hgen : entry.generation = (run.state n).generation := by
    simp only [isFresh, Bool.and_eq_true, beq_iff_eq] at valid
    exact valid.1
  refine ⟨landing, List.mem_of_find?_eq_some hfind, by rw [source, he]; exact hfind, ho, ?_⟩
  rw [hg, hgen, (run.tied n).generation]
  rfl

/-- The fetch whose outcome a call gets: the last success for a hit, one that ended after the call
began, or its own. -/
theorem source_of_answer {k call : Nat} {outcome : Outcome α}
    (hk : run.effect k = some (.answer call outcome)) :
    ∃ landing ∈ run.landed (k + 1), run.source k = some landing ∧ landing.outcome = outcome ∧
      (run.event k = some (.read call) ∧ landing ∈ run.landed k ∧
          landing.generation = run.invalidations k ∨
        run.FetchesNothing call ∧ (∃ j, run.event j = some (.read call) ∧ j < landing.ended) ∨
        ∀ b, run.effect b = some (.fetch call) ↔ b = landing.began) := by
  obtain ⟨event, he, t⟩ := run.event_of_effect hk
  rcases t.answer_cases (run.tied k).fair with ⟨_, rfl, rfl, fresh, -⟩ |
    ⟨caller, rfl, holds, -, ⟨rfl, idle, shared⟩ | ⟨rfl, -⟩⟩
  · obtain ⟨landing, hm, hs, ho, hg⟩ := source_of_fresh he fresh
    obtain ⟨new, hn, -⟩ := run.landed_append (Nat.le_succ k)
    exact ⟨landing, by rw [hn]; exact List.mem_append_right _ hm, hs, ho, .inl ⟨he, hm, hg⟩⟩
  · obtain ⟨j, landing, he', hl, ho, hlt⟩ := join_spec holds shared
    have nothing := fetchesNothing_of_idle holds idle hk
    refine ⟨landing, ?_, ?_, ho, .inr (.inl ⟨nothing, j, he', hlt⟩)⟩
    · rw [landed_succ_of_idle idle]
      exact List.mem_of_head? hl
    · rw [source, he]
      simp only
      rw [landed_succ_of_idle idle, hl]
  · obtain ⟨landing, hl, hc, -, ho, hb⟩ := fetchesOnce_of_finish he hk
    refine ⟨landing, by rw [hl]; exact List.mem_cons_self, ?_, ho, .inr (.inr hb)⟩
    rw [source, he]
    simp only
    rw [hl, List.head?_cons]

/-- The fetch whose value a read gets, and when it began: since the last invalidation for a hit,
after the read began, or before, and then the read fetches nothing and the fetch still ran. -/
theorem source_of_read {j k call : Nat} {value : α} (hj : run.event j = some (.read call))
    (hk : run.effect k = some (.answer call (.ok value))) :
    ∃ landing ∈ run.landed (k + 1), run.source k = some landing ∧ landing.outcome = .ok value ∧
      (landing ∈ run.landed j ∧ landing.generation = run.invalidations j ∨
        j ≤ landing.began ∨
        run.FetchesNothing call ∧ landing.began < j ∧ j < landing.ended) := by
  obtain ⟨landing, hm, hs, ho, ⟨he, hl, hg⟩ | ⟨nothing, j', he, hlt⟩ | own⟩ := source_of_answer hk
  · obtain rfl : j = k := run.begins_unique (begins_of_read hj) (begins_of_read he)
    exact ⟨landing, hm, hs, ho, .inl ⟨hl, hg⟩⟩
  · obtain rfl : j = j' := run.begins_unique (begins_of_read hj) (begins_of_read he)
    rcases Nat.lt_or_ge landing.began j with h | h
    · exact ⟨landing, hm, hs, ho, .inr (.inr ⟨nothing, h, hlt⟩)⟩
    · exact ⟨landing, hm, hs, ho, .inr (.inl h)⟩
  · -- its own fetch cannot have begun before the call did
    obtain ⟨j', hj', hbegin⟩ := begins_of_fetch ((own landing.began).2 rfl)
    obtain rfl : j = j' := run.begins_unique (begins_of_read hj) hbegin
    exact ⟨landing, hm, hs, ho, .inr (.inl hj')⟩

/-- The fetch whose value is shown without fetching. -/
theorem source_of_peek {n : Nat} {value : α} (h : (run.state n).peek = some value) :
    ∃ landing ∈ run.landed n, (run.landed n).find? Landing.succeeded = some landing ∧
      landing.outcome = .ok value := by
  obtain ⟨entry, hl, rfl⟩ := Option.map_eq_some_iff.1 h
  rw [(run.tied n).latest] at hl
  obtain ⟨landing, hfind, hentry⟩ := find?_succeeded hl
  exact ⟨landing, List.mem_of_find?_eq_some hfind, hfind, (Landing.entry?_eq_some_iff.1 hentry).1⟩

/-- Whatever succeeded before the last success had ended before the last success began. -/
theorem ended_lt_of_find? {n : Nat} {last landing : Landing α}
    (hf : (run.landed n).find? Landing.succeeded = some last) (hm : landing ∈ run.landed n)
    (succeeded : landing.succeeded = true) : landing = last ∨ landing.ended < last.began := by
  obtain ⟨-, later, earlier, hs, failed⟩ := List.find?_eq_some_iff_append.1 hf
  have apart := run.pairwise_landed n
  rw [hs] at hm apart
  rcases List.mem_append.1 hm with hm | hm
  · have := failed landing hm
    rw [succeeded] at this
    cases this
  · rcases List.mem_cons.1 hm with rfl | hm
    · exact .inl rfl
    · obtain ⟨-, apart, -⟩ := List.pairwise_append.1 apart
      exact .inr (List.rel_of_pairwise_cons apart hm)

end Run

end Fleet.Cache

/-
The life of a call at the lock of a cache. Whoever is in the queue has begun, once, and stands
there once, and nobody gets ahead of it (`ahead_succ`). A call fetches at most once, and from then
on it holds the lock with its fetch in the air until it leaves; a call that has been answered or
dropped is gone for good.
-/
import Fleet.Proofs.Cache.Run

namespace Fleet.Cache.Run

variable {α : Type} {run : Run α}

/-! ## Beginning -/

/-- A caller asks for the lock at a step. -/
def Enters (run : Run α) (n : Nat) (caller : Caller) : Prop :=
  ∃ event, run.event n = some event ∧ Asks (run.state n) (run.clock n) event caller

theorem Enters.begins {n : Nat} {caller : Caller} (h : run.Enters n caller) :
    run.Begins n caller.call := by
  obtain ⟨event, he, asks⟩ := h
  rw [Begins, he, Option.bind_some]
  exact asks.begins

theorem mem_queue_succ {n : Nat} {caller : Caller}
    (h : caller ∈ (run.state (n + 1)).lock.queue) :
    caller ∈ (run.state n).lock.queue ∨ run.Enters n caller := by
  rcases run.step_cases n with ⟨-, hs, -⟩ | ⟨event, he, t, -⟩
  · rw [hs] at h
    exact .inl h
  · rcases t.mem_queue (run.tied n).fair h with h | asks
    · exact .inl h
    · exact .inr ⟨event, he, asks⟩

/-- Whoever is at the lock has asked for it. -/
theorem enters_of_mem_queue {n : Nat} {caller : Caller}
    (h : caller ∈ (run.state n).lock.queue) : ∃ j < n, run.Enters j caller :=
  exists_origin (Q := fun n => caller ∈ (run.state n).lock.queue) (by rintro ⟨⟩)
    (fun _ => mem_queue_succ) h

theorem begins_of_mem_queue {n : Nat} {caller : Caller}
    (h : caller ∈ (run.state n).lock.queue) : ∃ j < n, run.Begins j caller.call := by
  obtain ⟨j, hj, he⟩ := enters_of_mem_queue h
  exact ⟨j, hj, he.begins⟩

/-- No call stands in the queue twice. -/
theorem nodup_queue (run : Run α) (n : Nat) :
    ((run.state n).lock.queue.map (·.call)).Nodup := by
  induction n with
  | zero => exact List.nodup_nil
  | succ n ih =>
    rcases run.step_cases n with ⟨-, hs, -⟩ | ⟨event, he, t, -⟩
    · rw [hs]
      exact ih
    · rcases t.queue_cases (run.tied n).fair with hq | ⟨caller, asks, hq⟩ | ⟨first, _, _, _, hq⟩ |
        ⟨call, _, hq⟩
      · rw [hq]
        exact ih
      · rw [hq, List.map_append, List.nodup_append]
        refine ⟨ih, List.nodup_singleton _, ?_⟩
        -- whoever waits already began earlier than the caller that joins now
        rintro _ hc _ hm rfl
        obtain ⟨other, ho, he'⟩ := List.mem_map.1 hc
        obtain ⟨j, hj, hb⟩ := begins_of_mem_queue ho
        rw [he', List.mem_singleton.1 hm] at hb
        have := run.begins_unique hb (Enters.begins ⟨event, he, asks⟩)
        omega
      · rw [hq, List.map_cons] at ih
        exact ih.of_cons
      · rw [hq]
        exact ih.sublist (List.filter_sublist.map _)

theorem front_not_mem {n : Nat} {caller other : Caller} {rest : List Caller}
    (hq : (run.state n).lock.queue = caller :: rest) (h : other ∈ rest) :
    other.call ≠ caller.call := by
  have hn := run.nodup_queue n
  rw [hq, List.map_cons, List.nodup_cons] at hn
  exact fun he => hn.1 (he ▸ List.mem_map_of_mem h)

/-! ## Being answered -/

/-- A call is answered when it begins, or at the front of the queue, which it leaves. -/
theorem queue_of_answer {n call : Nat} {outcome : Outcome α}
    (h : run.effect n = some (.answer call outcome)) :
    (run.event n = some (.read call) ∧ run.state (n + 1) = run.state n) ∨
    ∃ caller, caller.call = call ∧ (run.state n).lock.holder = some caller ∧
      (run.state n).lock.queue = caller :: (run.state (n + 1)).lock.queue := by
  obtain ⟨event, he, t⟩ := run.event_of_effect h
  rcases t.answer_cases (run.tied n).fair with ⟨_, rfl, _, _, hs⟩ | ⟨caller, hc, hh, hq, -⟩
  · exact .inl ⟨he, hs⟩
  · exact .inr ⟨caller, hc, hh, hq⟩

theorem begins_of_answer {n call : Nat} {outcome : Outcome α}
    (h : run.effect n = some (.answer call outcome)) : ∃ j ≤ n, run.Begins j call := by
  rcases queue_of_answer h with ⟨he, -⟩ | ⟨caller, rfl, holds, -⟩
  · exact ⟨n, le_rfl, begins_of_read he⟩
  · obtain ⟨j, hj, hb⟩ := begins_of_mem_queue (FairLock.mem_queue_of_holder holds)
    exact ⟨j, hj.le, hb⟩

/-- A call that has been answered is not at the lock any more. -/
theorem not_mem_queue_of_answer {k n call : Nat} {outcome : Outcome α}
    (h : run.effect k = some (.answer call outcome)) (hn : k < n) :
    ∀ caller ∈ (run.state n).lock.queue, caller.call ≠ call := by
  induction n, hn using Nat.le_induction with
  | base =>
    intro caller hm
    rcases queue_of_answer h with ⟨he, hs⟩ | ⟨first, rfl, -, hq⟩
    · rw [Nat.succ_eq_add_one, hs] at hm
      obtain ⟨j, hj, hb⟩ := begins_of_mem_queue hm
      rintro rfl
      have := run.begins_unique hb (begins_of_read he)
      omega
    · exact front_not_mem hq hm
  | succ n hn ih =>
    intro caller hm
    rcases mem_queue_succ hm with hm | hm
    · exact ih caller hm
    · rintro rfl
      obtain ⟨j, hj, hb⟩ := begins_of_answer h
      have := run.begins_unique hb hm.begins
      omega

/-! ## Ending -/

/-- A call ends in a step: it is answered or dropped. -/
def Ends (run : Run α) (n call : Nat) : Prop :=
  (∃ outcome, run.effect n = some (.answer call outcome)) ∨ run.event n = some (.drop call)

/-- A call that has ended is not at the lock any more. -/
theorem not_mem_queue_of_ends {i e n call : Nat} (begun : run.Begins i call) (hie : i ≤ e)
    (ends : run.Ends e call) (hn : e < n) :
    ∀ caller ∈ (run.state n).lock.queue, caller.call ≠ call := by
  rcases ends with ⟨outcome, he⟩ | he
  · exact not_mem_queue_of_answer he hn
  · induction n, hn using Nat.le_induction with
    | base =>
      intro caller hm
      rw [Nat.succ_eq_add_one, (run.transition he).eq_drop, queue_drop (run.tied e).fair] at hm
      simpa using (List.mem_filter.1 hm).2
    | succ n hn ih =>
      intro caller hm
      rcases mem_queue_succ hm with hm | enters
      · exact ih caller hm
      · rintro rfl
        have := run.begins_unique begun enters.begins
        omega

/-! ## Standing in the queue -/

/-- Whoever is at the lock has been there ever since its call began. -/
theorem mem_queue_between {j m n : Nat} {caller : Caller} (begun : run.Begins j caller.call)
    (hjm : j < m) (hmn : m ≤ n) (waits : caller ∈ (run.state n).lock.queue) :
    caller ∈ (run.state m).lock.queue := by
  induction n, hmn using Nat.le_induction with
  | base => exact waits
  | succ n hmn ih =>
    rcases mem_queue_succ waits with h | enters
    · exact ih h
    · have := run.begins_unique begun enters.begins
      omega

/-- In a step a caller at the lock is answered or dropped, or it stays there and nobody gets ahead
of it. -/
theorem ahead_succ {n : Nat} {caller : Caller} {ahead behind : List Caller}
    (hq : (run.state n).lock.queue = ahead ++ caller :: behind) :
    run.Ends n caller.call ∨
    ∃ ahead' behind', (run.state (n + 1)).lock.queue = ahead' ++ caller :: behind' ∧
      ahead'.Sublist ahead ∧ ∀ other ∈ ahead, other ∈ ahead' ∨ run.Ends n other.call := by
  rcases run.step_cases n with ⟨-, hs, -⟩ | ⟨event, he, t, -⟩
  · exact .inr ⟨ahead, behind, by rw [hs, hq], .refl _, fun _ h => .inl h⟩
  · rcases t.queue_cases (run.tied n).fair with same | ⟨other, -, joins⟩ |
      ⟨first, outcome, answers, -, leaves⟩ | ⟨call, rfl, dropped⟩
    · exact .inr ⟨ahead, behind, by rw [same, hq], .refl _, fun _ h => .inl h⟩
    · exact .inr ⟨ahead, behind ++ [other], by rw [joins, hq]; simp, .refl _, fun _ h => .inl h⟩
    · cases ahead with
      | nil =>
        rw [hq, List.nil_append] at leaves
        obtain ⟨rfl, -⟩ := List.cons.inj leaves
        exact .inl (.inl ⟨outcome, answers⟩)
      | cons head ahead =>
        rw [hq, List.cons_append] at leaves
        obtain ⟨rfl, rest⟩ := List.cons.inj leaves
        refine .inr ⟨ahead, behind, rest.symm, List.sublist_cons_self _ _, ?_⟩
        intro other h
        rcases List.mem_cons.1 h with rfl | h
        · exact .inr (.inl ⟨outcome, answers⟩)
        · exact .inl h
    · by_cases hc : caller.call = call
      · exact .inl (.inr (by rw [he, hc]))
      · refine .inr ⟨ahead.filter (·.call != call), behind.filter (·.call != call), ?_,
          List.filter_sublist, ?_⟩
        · rw [dropped, hq, List.filter_append, List.filter_cons, if_pos (by simpa using hc)]
        · intro other h
          by_cases ho : other.call = call
          · exact .inr (.inr (by rw [he, ho]))
          · exact .inl (List.mem_filter.2 ⟨h, by simpa using ho⟩)

/-- Until a caller at the lock is answered or dropped, nobody gets ahead of it. -/
theorem ahead_between {m n : Nat} (hmn : m ≤ n) {caller : Caller} {ahead behind : List Caller}
    (hq : (run.state m).lock.queue = ahead ++ caller :: behind) :
    (∃ k, m ≤ k ∧ k < n ∧ run.Ends k caller.call) ∨
    ∃ ahead' behind', (run.state n).lock.queue = ahead' ++ caller :: behind' ∧
      ahead'.Sublist ahead := by
  induction n, hmn using Nat.le_induction with
  | base => exact .inr ⟨ahead, behind, hq, .refl _⟩
  | succ n hmn ih =>
    rcases ih with ⟨k, hmk, hkn, ends⟩ | ⟨ahead', behind', hq', sub⟩
    · exact .inl ⟨k, hmk, by omega, ends⟩
    · rcases ahead_succ hq' with ends | ⟨ahead'', behind'', hq'', sub', -⟩
      · exact .inl ⟨n, hmn, Nat.lt_succ_self n, ends⟩
      · exact .inr ⟨ahead'', behind'', hq'', sub'.trans sub⟩

/-- Whoever holds the lock holds it until it leaves. -/
theorem holder_between {m n : Nat} (hmn : m ≤ n) {caller : Caller}
    (holds : (run.state m).lock.holder = some caller)
    (waits : caller ∈ (run.state n).lock.queue) :
    (run.state n).lock.holder = some caller := by
  have front : (run.state m).lock.queue = [] ++ caller :: (run.state m).lock.waiting :=
    FairLock.queue_of_holder holds
  rcases ahead_between hmn front with ⟨k, hmk, hkn, ends⟩ | ⟨ahead, behind, hq, sub⟩
  · obtain ⟨j, hj, begun⟩ := begins_of_mem_queue (FairLock.mem_queue_of_holder holds)
    exact absurd rfl (not_mem_queue_of_ends begun (by omega) ends hkn caller waits)
  · rw [List.sublist_nil.1 sub, List.nil_append] at hq
    exact FairLock.holder_of_queue (run.tied n).fair hq

/-! ## Fetching -/

theorem running_of_fetch {n call : Nat} (h : run.effect n = some (.fetch call)) :
    run.running n = [] ∧ run.running (n + 1) = [⟨call, n, run.invalidations n⟩] := by
  unfold running
  rcases run.turn_cases n with ⟨-, hf, -⟩ | ⟨event, he, turn⟩
  · rw [h] at hf
    cases hf
  · cases turn with
    | idle _ unfetched _ _ => exact absurd h (unfetched call)
    | fetch call' hf grounded hh =>
      rw [h] at hf
      cases hf
      exact ⟨grounded, by rw [hh]; rfl⟩
    | invalidate _ hf _ | land _ _ _ hf _ _ | drop _ _ hf _ _ =>
      rw [h] at hf
      cases hf

theorem begins_of_fetch {n call : Nat} (h : run.effect n = some (.fetch call)) :
    ∃ j ≤ n, run.Begins j call := by
  obtain ⟨event, he, t⟩ := run.event_of_effect h
  rcases t.fetch_cases with ⟨caller, asks, rfl, -⟩ | ⟨caller, -, holds, rfl, -⟩
  · exact ⟨n, le_rfl, Enters.begins ⟨event, he, asks⟩⟩
  · obtain ⟨j, hj, hb⟩ := begins_of_mem_queue (FairLock.mem_queue_of_holder holds)
    exact ⟨j, hj.le, hb⟩

/-- A call that has fetched stays at the lock only while its fetch runs. -/
theorem running_of_mem_queue {b n call : Nat} {caller : Caller}
    (hf : run.effect b = some (.fetch call)) (hn : b < n)
    (hq : caller ∈ (run.state n).lock.queue) (hc : caller.call = call) :
    run.running n = [⟨call, b, run.invalidations b⟩] := by
  induction n, hn using Nat.le_induction generalizing caller with
  | base => exact (running_of_fetch hf).2
  | succ n hn ih =>
    rcases mem_queue_succ hq with hm | hm
    · have hr := ih hm hc
      unfold running at hr ⊢
      rcases run.turn_cases n with ⟨-, -, hh⟩ | ⟨event, he, turn⟩
      · rw [hh]
        exact hr
      · cases turn with
        | idle _ _ _ hh | invalidate _ _ hh =>
          rw [hh]
          exact hr
        | fetch _ _ grounded _ =>
          rw [hr] at grounded
          cases grounded
        | land flight outcome event_eq effect_eq aloft _ =>
          rw [hr] at aloft
          cases aloft
          -- its own fetch has ended, so it has been answered
          exact absurd hc (not_mem_queue_of_answer effect_eq (Nat.lt_succ_self n) caller hq)
        | drop flight event_eq _ aloft _ =>
          rw [hr] at aloft
          cases aloft
          subst event_eq
          rw [(run.transition he).eq_drop, queue_drop (run.tied n).fair] at hq
          exact absurd hc (by simpa using (List.mem_filter.1 hq).2)
    · obtain ⟨j, hj, hb⟩ := begins_of_fetch hf
      have := run.begins_unique (hc ▸ hm.begins) hb
      omega

/-- No call fetches twice. -/
theorem fetch_unique {b b' call : Nat} (h : run.effect b = some (.fetch call))
    (h' : run.effect b' = some (.fetch call)) : b = b' := by
  have earlier : ∀ {b b' : Nat}, run.effect b = some (.fetch call) →
      run.effect b' = some (.fetch call) → ¬ b < b' := by
    intro b b' h h' hlt
    have grounded := (running_of_fetch h').1
    obtain ⟨event, he, t⟩ := run.event_of_effect h'
    rcases t.fetch_cases with ⟨caller, asks, rfl, -⟩ | ⟨caller, -, holds, rfl, -⟩
    · obtain ⟨j, hj, hb⟩ := begins_of_fetch h
      have := run.begins_unique hb (Enters.begins ⟨event, he, asks⟩)
      omega
    · -- its first fetch would still be running
      rw [running_of_mem_queue h hlt (FairLock.mem_queue_of_holder holds) rfl] at grounded
      cases grounded
  have h1 := earlier h h'
  have h2 := earlier h' h
  omega

end Fleet.Cache.Run

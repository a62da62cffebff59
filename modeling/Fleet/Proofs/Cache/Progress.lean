/-
Nobody waits for ever who is not dropped. Suppose that every fetch that runs ends and whoever's turn
it is goes on, if the call is not dropped first (`Attended`). Then the holder of the lock leaves it
(`holder_ends`), what stands behind it moves up, and every call that begins and is never dropped is
answered (`answered_of_kept`). In a run without drops that is every call (`answered_of_begins`).
-/
import Fleet.Proofs.Cache.Caller
import Mathlib.Data.Nat.Find

namespace Fleet.Cache.Run

variable {α : Type} {run : Run α}

/-! ## Fair runs -/

/-- No call is dropped. -/
def Undropped (run : Run α) : Prop := ∀ n call, run.event n ≠ some (.drop call)

/-- No fetch runs for ever, and whoever's turn it is goes on. -/
structure Fair (run : Run α) : Prop where
  ends : ∀ n, run.running n ≠ [] → ∃ m, n ≤ m ∧ ∃ outcome, run.event m = some (.finish outcome)
  resumes : ∀ n, run.running n = [] → (run.state n).lock.holder ≠ none →
    ∃ m, n ≤ m ∧ run.event m = some .resume

/-- No fetch runs for ever unless its call is dropped, and whoever's turn it is goes on or is
dropped. -/
structure Attended (run : Run α) : Prop where
  ends : ∀ n flight, run.running n = [flight] →
    ∃ m, n ≤ m ∧ ((∃ outcome, run.event m = some (.finish outcome)) ∨
      run.event m = some (.drop flight.call))
  resumes : ∀ n caller, run.running n = [] → (run.state n).lock.holder = some caller →
    ∃ m, n ≤ m ∧ (run.event m = some .resume ∨ run.event m = some (.drop caller.call))

theorem Fair.attended (fair : run.Fair) : run.Attended where
  ends n flight hr := by
    obtain ⟨m, hnm, finishes⟩ := fair.ends n (by rw [hr]; exact List.cons_ne_nil _ _)
    exact ⟨m, hnm, .inl finishes⟩
  resumes n caller hr holds := by
    obtain ⟨m, hnm, resumes⟩ := fair.resumes n hr (by rw [holds]; exact Option.some_ne_none _)
    exact ⟨m, hnm, .inl resumes⟩

theorem first_of_exists {P : Nat → Prop} {n : Nat} (h : ∃ m, n ≤ m ∧ P m) :
    ∃ m, n ≤ m ∧ P m ∧ ∀ l, n ≤ l → l < m → ¬ P l := by
  classical
  obtain ⟨hn, hp⟩ := Nat.find_spec h
  exact ⟨Nat.find h, hn, hp, fun l hl hlt hpl => Nat.find_min h hlt ⟨hl, hpl⟩⟩

/-! ## The holder of the lock -/

/-- The holder stays, with its fetch if it has one, until it is dropped, or its fetch ends or its
turn is taken. -/
theorem holder_stays {n : Nat} {caller : Caller}
    (holds : (run.state n).lock.holder = some caller)
    (kept : run.event n ≠ some (.drop caller.call))
    (unfinished : (run.state n).flight ≠ none → ∀ outcome, run.event n ≠ some (.finish outcome))
    (unresumed : (run.state n).flight = none → run.event n ≠ some .resume) :
    (run.state (n + 1)).lock.holder = some caller ∧
      (run.state (n + 1)).flight = (run.state n).flight := by
  rcases run.step_cases n with ⟨-, hs, -⟩ | ⟨event, he, t, -⟩
  · rw [hs]
    exact ⟨holds, rfl⟩
  · generalize run.state (n + 1) = next at t ⊢
    generalize run.effect n = effect at t
    cases t with
    | hit | invalidate | rest | lost => exact ⟨holds, rfl⟩
    | start asks free =>
      rw [holds] at free
      cases free
    | wait asks held => exact ⟨(FairLock.holder_claim_of_held held _).trans holds, rfl⟩
    | join _ idle _ | launch _ idle _ => exact absurd he (unresumed idle)
    | land _ aloft => exact absurd he (unfinished (by rw [aloft]; exact Option.some_ne_none _) _)
    | @drop call =>
      have other : (caller.call == call) = false := by
        rw [beq_eq_false_iff_ne]
        rintro rfl
        exact kept he
      refine ⟨FairLock.holder_abandon_of_neg holds other, ?_⟩
      simp [Cache.drop, holds, other]

theorem holder_stays_until {n m : Nat} (hnm : n ≤ m) {caller : Caller}
    (holds : (run.state n).lock.holder = some caller)
    (kept : ∀ l, n ≤ l → l < m → run.event l ≠ some (.drop caller.call))
    (unfinished : (run.state n).flight ≠ none →
      ∀ l, n ≤ l → l < m → ∀ outcome, run.event l ≠ some (.finish outcome))
    (unresumed : (run.state n).flight = none →
      ∀ l, n ≤ l → l < m → run.event l ≠ some .resume) :
    (run.state m).lock.holder = some caller ∧ (run.state m).flight = (run.state n).flight := by
  induction m, hnm using Nat.le_induction with
  | base => exact ⟨holds, rfl⟩
  | succ m hnm ih =>
    obtain ⟨holds', hf⟩ := ih (fun l h1 h2 => kept l h1 (by omega))
      (fun h l h1 h2 => unfinished h l h1 (by omega))
      (fun h l h1 h2 => unresumed h l h1 (by omega))
    have last := Nat.lt_succ_self m
    rw [← hf] at unfinished unresumed ⊢
    exact holder_stays holds' (kept m hnm last) (fun h => unfinished h m hnm last)
      fun h => unresumed h m hnm last

/-- A holder whose fetch runs is answered when the fetch ends, unless it is dropped. -/
theorem holder_lands (attended : run.Attended) {n : Nat} {caller : Caller}
    (holds : (run.state n).lock.holder = some caller) (aloft : (run.state n).flight ≠ none) :
    ∃ k, n ≤ k ∧ run.Ends k caller.call := by
  obtain ⟨generation, hg⟩ := Option.ne_none_iff_exists'.1 aloft
  obtain ⟨b, -, -, hr⟩ := running_of_holder holds hg
  obtain ⟨m, hnm, he, before⟩ := first_of_exists (attended.ends n _ hr)
  obtain ⟨holds', hf⟩ := holder_stays_until hnm holds
    (fun l h1 h2 he => before l h1 h2 (.inr he))
    (fun _ l h1 h2 outcome he => before l h1 h2 (.inl ⟨outcome, he⟩)) (fun h => absurd h aloft)
  refine ⟨m, hnm, ?_⟩
  rcases he with ⟨outcome, he⟩ | dropped
  · have t := run.transition he
    generalize run.state (m + 1) = next at t
    generalize heffect : run.effect m = effect at t
    cases t with
    | start asks | wait asks => cases asks
    | lost idle =>
      rw [holds', hf] at idle
      exact absurd idle (by simpa using aloft)
    | land holder _ =>
      obtain rfl : caller = _ := Option.some.inj (holds'.symm.trans holder)
      exact .inl ⟨outcome, heffect⟩
  · exact .inr dropped

/-- Whoever holds the lock is answered or dropped. -/
theorem holder_ends (attended : run.Attended) {n : Nat} {caller : Caller}
    (holds : (run.state n).lock.holder = some caller) : ∃ k, n ≤ k ∧ run.Ends k caller.call := by
  by_cases idle : (run.state n).flight = none
  · obtain ⟨m, hnm, he, before⟩ :=
      first_of_exists (attended.resumes n caller ((run.tied n).grounded idle) holds)
    obtain ⟨holds', hf⟩ := holder_stays_until hnm holds
      (fun l h1 h2 he => before l h1 h2 (.inr he)) (fun h => absurd idle h)
      (fun _ l h1 h2 he => before l h1 h2 (.inl he))
    rcases he with he | dropped
    · have t := run.transition he
      -- the holder takes over an outcome, or fetches and leaves when its fetch has ended
      generalize hs : run.state (m + 1) = next at t
      generalize heffect : run.effect m = effect at t
      cases t with
      | start asks | wait asks => cases asks
      | rest busy =>
        rw [holds', hf, idle] at busy
        simp at busy
      | join holder _ _ =>
        obtain rfl : caller = _ := Option.some.inj (holds'.symm.trans holder)
        exact ⟨m, hnm, .inl ⟨_, heffect⟩⟩
      | launch _ _ _ =>
        have aloft : (run.state (m + 1)).flight ≠ none := by
          rw [hs]
          exact Option.some_ne_none _
        obtain ⟨k, hk, ends⟩ := holder_lands attended (by rw [hs]; exact holds') aloft
        exact ⟨k, by omega, ends⟩
    · exact ⟨m, hnm, .inr dropped⟩
  · exact holder_lands attended holds idle

/-! ## Everyone -/

theorem answered_of_mem_queue (attended : run.Attended) {caller : Caller}
    (kept : ∀ n, run.event n ≠ some (.drop caller.call)) {n : Nat}
    (h : caller ∈ (run.state n).lock.queue) :
    ∃ k outcome, n ≤ k ∧ run.effect k = some (.answer caller.call outcome) := by
  have answered : ∀ {k}, run.Ends k caller.call →
      ∃ outcome, run.effect k = some (.answer caller.call outcome) :=
    fun ends => ends.resolve_right (kept _)
  obtain ⟨ahead, behind, hq⟩ := List.mem_iff_append.1 h
  -- by the number of callers ahead; the first of them leaves, and nobody gets ahead of the caller
  induction hl : ahead.length using Nat.strong_induction_on generalizing n ahead behind with
  | _ length ih =>
    cases ahead with
    | nil =>
      obtain ⟨k, hk, ends⟩ := holder_ends attended (FairLock.holder_of_queue (run.tied n).fair hq)
      obtain ⟨outcome, answers⟩ := answered ends
      exact ⟨k, outcome, hk, answers⟩
    | cons first ahead =>
      have holds := FairLock.holder_of_queue (run.tied n).fair hq
      obtain ⟨k, hk, ends⟩ := holder_ends attended holds
      rcases ahead_between (show n ≤ k + 1 by omega) hq with
        ⟨k', hk', -, ends'⟩ | ⟨ahead', behind', hq', sub⟩
      · obtain ⟨outcome, answers⟩ := answered ends'
        exact ⟨k', outcome, hk', answers⟩
      · obtain ⟨j, hj, begun⟩ := begins_of_mem_queue (FairLock.mem_queue_of_holder holds)
        have gone := not_mem_queue_of_ends begun (by omega) ends (Nat.lt_succ_self k)
        have fewer : ahead'.length < length := by
          rw [← hl]
          rcases List.sublist_cons_iff.1 sub with sub | ⟨rest, rfl, -⟩
          · exact Nat.lt_succ_of_le sub.length_le
          · exact absurd rfl (gone first (by rw [hq']; simp))
        obtain ⟨k', outcome, hk', answers⟩ := ih _ fewer (by rw [hq']; simp) _ _ hq' rfl
        exact ⟨k', outcome, by omega, answers⟩

/-- Every call that begins and is never dropped is answered. -/
theorem answered_of_kept (attended : run.Attended) {j call : Nat}
    (kept : ∀ n, run.event n ≠ some (.drop call)) (h : run.Begins j call) :
    ∃ k outcome, j ≤ k ∧ run.effect k = some (.answer call outcome) := by
  rcases run.step_cases j with ⟨he, -⟩ | ⟨event, he, t, -⟩
  · rw [Begins, he] at h
    cases h
  · rw [Begins, he, Option.bind_some] at h
    generalize hs : run.state (j + 1) = next at t
    generalize hf : run.effect j = effect at t
    have queued : ∀ {caller : Caller}, Asks (run.state j) (run.clock j) event caller →
        next.lock.queue = (run.state j).lock.queue ++ [caller] →
        ∃ k outcome, j ≤ k ∧ run.effect k = some (.answer call outcome) := by
      intro caller asks hq
      obtain rfl := Option.some.inj (asks.begins.symm.trans h)
      have hm : caller ∈ (run.state (j + 1)).lock.queue := by
        rw [hs, hq]
        exact List.mem_append_right _ (List.mem_singleton_self _)
      obtain ⟨k, outcome, hk, hf⟩ := answered_of_mem_queue attended kept hm
      exact ⟨k, outcome, by omega, hf⟩
    cases t with
    | hit fresh =>
      obtain rfl := Option.some.inj h
      exact ⟨j, _, le_rfl, hf⟩
    | start asks | wait asks => exact queued asks (FairLock.queue_claim (run.tied j).fair _)
    | invalidate | join | launch | rest | land | lost | drop => cases h

/-- Without drops every call that begins is answered. -/
theorem answered_of_begins (undropped : run.Undropped) (fair : run.Fair) {j call : Nat}
    (h : run.Begins j call) :
    ∃ k outcome, j ≤ k ∧ run.effect k = some (.answer call outcome) :=
  answered_of_kept fair.attended (fun n => undropped n call) h

end Fleet.Cache.Run

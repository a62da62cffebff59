/-
A lock that serves its claimants in the order in which they ask. At most one of them holds it;
when the holder is done, or gives up, the one that has waited longest holds it next.
-/
namespace Fleet

/-- The holder of a lock, and who waits for it, the one that asked first at the front. -/
structure FairLock (κ : Type) where
  holder : Option κ := none
  waiting : List κ := []

namespace FairLock

variable {κ : Type}

/-- Whether nobody holds the lock. -/
def isFree (lock : FairLock κ) : Bool := lock.holder.isNone

/-- The lock after a claim: held by the claimant if it was free. -/
def claim (lock : FairLock κ) (who : κ) : FairLock κ :=
  if lock.isFree then { lock with holder := some who }
  else { lock with waiting := lock.waiting ++ [who] }

/-- The lock after its holder is done. -/
def release (lock : FairLock κ) : FairLock κ := ⟨lock.waiting.head?, lock.waiting.tail⟩

/-- The lock after the claimants in a class have given up. -/
def abandon (lock : FairLock κ) (gone : κ → Bool) : FairLock κ :=
  let left : FairLock κ := { lock with waiting := lock.waiting.filter (!gone ·) }
  if lock.holder.any gone then left.release else left

/-- The holder and everyone who waits, in the order of service. -/
def queue (lock : FairLock κ) : List κ := lock.holder.toList ++ lock.waiting

/-! ## Order of service -/

/-- A lock that nobody holds has nobody waiting. -/
def Fair (lock : FairLock κ) : Prop := lock.holder = none → lock.waiting = []

theorem holder_eq_head? {lock : FairLock κ} (h : lock.Fair) : lock.holder = lock.queue.head? := by
  unfold queue
  cases hh : lock.holder with
  | none => simp [h hh]
  | some k => simp

theorem queue_of_holder {lock : FairLock κ} {who : κ} (h : lock.holder = some who) :
    lock.queue = who :: lock.waiting := by
  simp [queue, h]

theorem holder_of_queue {lock : FairLock κ} (h : lock.Fair) {who : κ} {rest : List κ}
    (hq : lock.queue = who :: rest) : lock.holder = some who := by
  rw [holder_eq_head? h, hq, List.head?_cons]

theorem mem_queue_of_holder {lock : FairLock κ} {who : κ} (h : lock.holder = some who) :
    who ∈ lock.queue := by
  simp [queue, h]

theorem holder_claim_of_free {lock : FairLock κ} (h : lock.holder = none) (who : κ) :
    (lock.claim who).holder = some who := by
  simp [claim, isFree, h]

theorem holder_claim_of_held {lock : FairLock κ} (h : lock.holder ≠ none) (who : κ) :
    (lock.claim who).holder = lock.holder := by
  simp [claim, isFree, h]

theorem holder_abandon_of_neg {lock : FairLock κ} {gone : κ → Bool} {who : κ}
    (h : lock.holder = some who) (hw : gone who = false) :
    (lock.abandon gone).holder = some who := by
  simp [abandon, h, hw]

theorem queue_claim {lock : FairLock κ} (h : lock.Fair) (who : κ) :
    (lock.claim who).queue = lock.queue ++ [who] := by
  unfold claim isFree queue
  cases hh : lock.holder with
  | none => simp [h hh]
  | some k => simp

theorem queue_release {lock : FairLock κ} (h : lock.Fair) :
    lock.release.queue = lock.queue.tail := by
  unfold release queue
  cases hh : lock.holder with
  | none => simp [h hh]
  | some k => cases hw : lock.waiting <;> simp

/-- Whoever gives up leaves the queue, and the others keep their order. -/
theorem queue_abandon {lock : FairLock κ} (h : lock.Fair) (gone : κ → Bool) :
    (lock.abandon gone).queue = lock.queue.filter (!gone ·) := by
  unfold abandon
  cases hh : lock.holder with
  | none => simp [queue, hh, h hh]
  | some k =>
    by_cases hk : gone k = true
    · rw [if_pos (by simpa [hh] using hk), queue_release (by simp [Fair])]
      simp [queue, hh, hk]
    · rw [if_neg (by simpa [hh] using hk)]
      simp [queue, hh, hk]

theorem mem_queue_claim {lock : FairLock κ} {who other : κ} (h : other ∈ (lock.claim who).queue) :
    other = who ∨ other ∈ lock.queue := by
  unfold claim isFree queue at *
  cases hh : lock.holder with
  | none => simpa [hh] using h
  | some k =>
    simp only [hh, Option.isNone_some, Bool.false_eq_true, if_false, Option.toList_some,
      List.singleton_append, List.mem_cons, List.mem_append, List.not_mem_nil, or_false] at h ⊢
    rcases h with h | h | h
    · exact .inr (.inl h)
    · exact .inr (.inr h)
    · exact .inl h

theorem mem_queue_release {lock : FairLock κ} {other : κ} (h : other ∈ lock.release.queue) :
    other ∈ lock.queue := by
  unfold release queue at *
  refine List.mem_append_right _ ?_
  cases hw : lock.waiting with
  | nil => simp [hw] at h
  | cons first rest => simpa [hw] using h

theorem mem_queue_abandon {lock : FairLock κ} {gone : κ → Bool} {other : κ}
    (h : other ∈ (lock.abandon gone).queue) : other ∈ lock.queue := by
  have kept : ∀ {who : κ}, who ∈ lock.holder.toList ++ lock.waiting.filter (!gone ·) →
      who ∈ lock.queue := by
    intro who hm
    rcases List.mem_append.1 hm with hm | hm
    · exact List.mem_append_left _ hm
    · exact List.mem_append_right _ (List.mem_filter.1 hm).1
  unfold abandon at h
  split at h
  · exact kept (mem_queue_release h)
  · exact kept h

theorem fair_claim (lock : FairLock κ) (who : κ) : (lock.claim who).Fair := by
  unfold claim isFree Fair
  cases hh : lock.holder <;> simp

theorem fair_release (lock : FairLock κ) : lock.release.Fair := by
  unfold release Fair
  cases lock.waiting <;> simp

theorem fair_abandon {lock : FairLock κ} (h : lock.Fair) (gone : κ → Bool) :
    (lock.abandon gone).Fair := by
  unfold abandon
  by_cases hg : lock.holder.any gone = true
  · rw [if_pos hg]
    exact fair_release _
  · rw [if_neg hg]
    intro hn
    simp [h hn]

end FairLock

end Fleet

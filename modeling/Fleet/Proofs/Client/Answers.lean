/-
Where the answers to a call come from. A call that shows a listing is answered by the cache of
that listing, or at once from what was fetched last (`answer_of_listing`); no other call gets
anything from a cache.
-/
import Fleet.Proofs.Client.Requests

namespace Fleet

/-! ## Operations that show a listing -/

namespace Operation

/-- The listing an operation shows. -/
def listing? : Operation → Option ResourceKey
  | machines | refreshMachines | machineRecords | inventory | cachedInventory => some .machines
  | blueprints | refreshBlueprints => some .blueprints
  | _ => none

theorem listing?_of_reads {operation : Operation} {key : ResourceKey}
    (h : operation.reads? = some key ∨ operation.refreshes? = some key) :
    operation.listing? = some key := by
  cases operation <;> simp_all [listing?]

theorem unlisted_of_posts {operation : Operation} {purpose : Purpose}
    (h : operation.Posts purpose) : operation.listing? = none ∧ ∀ key, purpose ≠ .listing key := by
  cases h <;> exact ⟨rfl, by simp⟩

/-- An operation that shows a listing makes requests for that listing and no others. -/
theorem purpose_of_makes {operation : Operation} {key : ResourceKey} {purpose : Purpose}
    (ho : operation.listing? = some key) (makes : operation.Makes purpose) :
    purpose = .listing key := by
  cases makes with
  | read reads =>
    have h := listing?_of_reads (.inl reads)
    rw [ho] at h
    rw [Option.some.inj h]
  | refresh refreshes =>
    have h := listing?_of_reads (.inr refreshes)
    rw [ho] at h
    rw [Option.some.inj h]
  | other posts =>
    rw [(unlisted_of_posts posts).1] at ho
    cases ho
  | change => cases ho

end Operation

namespace Client.Run

variable {run : Run} {key : ResourceKey}

/-! ## Answers that show a listing -/

/-- A call that shows a listing is answered by the cache of that listing, or at once, without a
request, from the last success. -/
theorem answer_of_listing {j k call : Nat} {operation : Operation}
    {result : Except Failure Answer} (hj : run.event j = some (.start call operation))
    (ho : operation.listing? = some key) (hk : run.effect k = some (.answer call result)) :
    (operation = .cachedInventory ∧ k = j ∧
      result = .ok (.cachedInventory (run.state j).cachedInventory)) ∨
    ((operation.reads? = some key ∨ operation.refreshes? = some key) ∧
      ∃ outcome, (run.listing key).effect k = some (.answer call outcome) ∧
        result = outcome.map (Answer.listing key)) := by
  obtain ⟨event, he, t⟩ := run.event_of_effect hk
  -- a request that is for no listing is made for another call
  have foreign : ∀ {m : Nat} {purpose : Purpose} {other : Operation},
      run.event m = some (.start call other) → other.Makes purpose →
      (∀ key, purpose ≠ .listing key) → False := by
    intro m purpose other hm makes unlisted
    obtain ⟨-, rfl⟩ := start_unique hj hm
    exact unlisted key (Operation.purpose_of_makes ho makes)
  rcases t.answer_cases with ⟨other, outcome, hc, hr⟩ | ⟨other, rfl, unread, unrefreshed⟩ |
    ⟨errand, waits, rfl, rfl, unlisted⟩ | ⟨exchange, reply, rfl, rfl, unlisted⟩
  · rw [← listing_effect run other he] at hc
    obtain ⟨m, -, hb⟩ := Cache.Run.begins_of_answer hc
    obtain ⟨asked, hm, reads⟩ := run.start_of_begins hb
    obtain ⟨-, rfl⟩ := start_unique hj hm
    obtain rfl : key = other :=
      Option.some.inj (ho.symm.trans (Operation.listing?_of_reads reads))
    exact .inr ⟨reads, outcome, hc, hr⟩
  · obtain ⟨rfl, rfl⟩ := start_unique hj he
    refine .inl ?_
    cases operation with
    | cachedInventory =>
      rw [effect_eq he] at hk
      cases hk
      exact ⟨rfl, rfl, rfl⟩
    | machines | machineRecords | inventory | blueprints => cases unread
    | refreshMachines | refreshBlueprints => cases unrefreshed
    | blueprint | change | value | setSession | invalidate => cases ho
  · obtain ⟨m, -, other, hm, makes⟩ := errand_origin waits
    exact (foreign hm makes unlisted).elim
  · obtain ⟨m, -, other, hm, makes⟩ := exchange_origin (run.heard he)
    exact (foreign hm makes unlisted).elim

end Client.Run

end Fleet

/-
A client without one call for a change (`Lacks`). Apart from the call the same requests are to be
made, the other calls stand at the lock in the same order, and one of them may have its turn
earlier and wait for its request to be let through instead. A step of both clients, and a step of
the call that leaves the listings as they are, keep it so.
-/
import Fleet.Proofs.Client.Turns

namespace Fleet

/-- A call that is not at the lock leaves nothing behind. -/
theorem Cache.drop_eq_self {α : Type} {cache : Cache α} {call : Nat}
    (h : ∀ caller ∈ cache.lock.queue, caller.call ≠ call) : cache.drop call = cache := by
  have held : cache.lock.holder.any (·.call == call) = false := by
    cases hh : cache.lock.holder with
    | none => rfl
    | some caller => simpa using h caller (FairLock.mem_queue_of_holder hh)
  have waiting : cache.lock.waiting.filter (!·.call == call) = cache.lock.waiting := by
    refine List.filter_eq_self.2 fun caller waits => ?_
    simpa using h caller (List.mem_append_right _ waits)
  unfold drop FairLock.abandon
  simp only [held, waiting]
  rfl

namespace Client

theorem enterChange_cases (client : Client) (pending : PendingChange) :
    (client.changes.holder = none ∧ client.enterChange pending =
      ({ client with changes := client.changes.claim pending } : Client).beginChange pending) ∨
    (client.changes.holder ≠ none ∧
      client.enterChange pending = { client with changes := client.changes.claim pending }) := by
  unfold enterChange FairLock.isFree
  cases client.changes.holder with
  | none => exact .inl ⟨rfl, rfl⟩
  | some first => exact .inr ⟨by simp, rfl⟩

theorem resumeChange_cases (client : Client) :
    (∃ pending, client.changes.holder = some pending ∧ client.changing = false ∧
      client.resumeChange = client.beginChange pending) ∨
    ((client.changes.holder = none ∨ client.changing = true) ∧ client.resumeChange = client) := by
  unfold resumeChange
  cases hh : client.changes.holder with
  | none => exact .inr ⟨.inl rfl, rfl⟩
  | some pending =>
    cases hc : client.changing with
    | true => exact .inr ⟨.inr rfl, rfl⟩
    | false => exact .inl ⟨pending, rfl, rfl, rfl⟩

/-- After a call is dropped, the change that is being made is the one that was, of another call. -/
theorem busy_drop_iff {client : Client} {gone : Nat} {pending : PendingChange} :
    ((client.drop gone).changes.holder = some pending ∧ (client.drop gone).changing = true) ↔
      (client.changes.holder = some pending ∧ client.changing = true) ∧ pending.call ≠ gone := by
  have changing : (client.drop gone).changing =
      (client.changing && !client.changes.holder.any (·.call == gone)) := rfl
  have changes : (client.drop gone).changes = client.changes.abandon (·.call == gone) := rfl
  rw [changing, changes]
  constructor
  · rintro ⟨holds, busy⟩
    rw [Bool.and_eq_true] at busy
    cases hh : client.changes.holder with
    | none => simp [FairLock.abandon, hh] at holds
    | some first =>
      have kept : first.call ≠ gone := by simpa [hh] using busy.2
      rw [FairLock.holder_abandon_of_neg hh (by simpa using kept)] at holds
      obtain rfl := Option.some.inj holds
      exact ⟨⟨rfl, busy.1⟩, kept⟩
  · rintro ⟨⟨holds, busy⟩, kept⟩
    exact ⟨FairLock.holder_abandon_of_neg holds (by simpa using kept), by simp [holds, busy, kept]⟩

/-! ## The same client without a call -/

/-- The other client is this one without a call for a change. -/
structure Lacks (call : Nat) (client other : Client) : Prop where
  base : other.base = client.base
  session : other.session = client.session
  cache : ∀ key, other.cache key = client.cache key
  fair : other.changes.Fair
  /-- While nobody holds the lock no change is being made. -/
  rests : other.changes.holder = none → other.changing = false
  /-- The other calls stand at the lock in the same order. -/
  queue : other.changes.queue = client.changes.queue.filter (·.call != call)
  /-- Their requests are to be made here as well. -/
  waiting : ∀ errand ∈ client.errands, errand.call ≠ call → errand ∈ other.errands
  /-- A change that is being made is being made there as well, or waits for its request to be let
  through. -/
  ahead : ∀ pending, other.changes.holder = some pending → other.changing = true →
    (client.changes.holder = some pending ∧ client.changing = true) ∨
      pending.errand ∈ other.errands

namespace Lacks

variable {call : Nat} {client other : Client}

theorem request_eq (h : Lacks call client other) (purpose : Purpose) :
    other.request purpose = client.request purpose := by
  unfold Client.request
  rw [h.base, h.session]

/-- Whoever holds the lock there is at the lock here, and is another call. -/
theorem mem_of_holder (h : Lacks call client other) {pending : PendingChange}
    (holds : other.changes.holder = some pending) :
    pending ∈ client.changes.queue ∧ pending.call ≠ call := by
  have waits := FairLock.mem_queue_of_holder holds
  rw [h.queue, List.mem_filter] at waits
  exact ⟨waits.1, by simpa using waits.2⟩

/-- Another call that holds the lock here holds it there. -/
theorem holder_of_ne (h : Lacks call client other) {pending : PendingChange}
    (holds : client.changes.holder = some pending) (hc : pending.call ≠ call) :
    other.changes.holder = some pending := by
  rw [FairLock.holder_eq_head? h.fair, h.queue, FairLock.queue_of_holder holds,
    List.filter_cons_of_pos (by simpa using hc), List.head?_cons]

/-! ## Steps of both clients -/

section Both

variable (h : Lacks call client other)
include h

theorem withCache (key : ResourceKey) (cache : Cache (List key.Item)) :
    Lacks call (client.withCache key cache) (other.withCache key cache) := by
  obtain ⟨machines, blueprints, hc⟩ := client.withCache_frame key cache
  obtain ⟨machines', blueprints', ho⟩ := other.withCache_frame key cache
  have same : ∀ key', (other.withCache key cache).cache key' =
      (client.withCache key cache).cache key' := by
    intro key'
    by_cases hk : key' = key
    · subst hk
      rw [cache_withCache, cache_withCache]
    · rw [cache_withCache_of_ne _ _ hk, cache_withCache_of_ne _ _ hk, h.cache key']
  rw [hc, ho] at same ⊢
  exact { h with cache := same }

theorem post (who : Nat) (purpose : Purpose) :
    Lacks call (client.post who purpose) (other.post who purpose) where
  base := h.base
  session := h.session
  cache key := by rw [cache_post, cache_post, h.cache key]
  fair := h.fair
  rests := h.rests
  queue := h.queue
  waiting errand waits hc := by
    rcases List.mem_append.1 waits with waits | new
    · exact List.mem_append_left _ (h.waiting errand waits hc)
    · exact List.mem_append_right _ new
  ahead pending holds busy := by
    rcases h.ahead pending holds busy with here | waits
    · exact .inl here
    · exact .inr (List.mem_append_left _ waits)

/-- A request is let through that is for no change, or for the change that is being made. -/
theorem unpost {errand : Errand} (held : ∀ pending, other.changes.holder = some pending →
      pending.errand = errand →
      client.changes.holder = some pending ∧ client.changing = true) :
    Lacks call (client.unpost errand) (other.unpost errand) where
  base := h.base
  session := h.session
  cache key := (cache_congr key rfl rfl).trans ((h.cache key).trans (cache_congr key rfl rfl))
  fair := h.fair
  rests := h.rests
  queue := h.queue
  waiting other_errand waits hc := by
    obtain ⟨waits, apart⟩ := List.mem_filter.1 waits
    exact List.mem_filter.2 ⟨h.waiting other_errand waits hc, apart⟩
  ahead pending holds busy := by
    rcases h.ahead pending holds busy with here | waits
    · exact .inl here
    · by_cases same : pending.errand = errand
      · exact .inl (held pending holds same)
      · exact .inr (List.mem_filter.2 ⟨waits, by simpa using same⟩)

theorem setSession (session : Option SessionCookie) :
    Lacks call (client.setSession session) (other.setSession session) where
  base := h.base
  session := rfl
  cache key := by rw [cache_setSession, cache_setSession, h.cache key]
  fair := h.fair
  rests := h.rests
  queue := h.queue
  waiting := h.waiting
  ahead := h.ahead

theorem invalidate (key : ResourceKey) :
    Lacks call (client.invalidate key) (other.invalidate key) := by
  unfold Client.invalidate
  rw [h.cache key]
  exact h.withCache key _

/-- An event of a listing comes to the same. -/
theorem listing (key : ResourceKey) (now : Nat) (event : Cache.Event (List key.Item)) :
    Lacks call (client.listing key now event).1 (other.listing key now event).1 ∧
      (other.listing key now event).2 = (client.listing key now event).2 := by
  have stored := h.withCache key ((client.cache key).step now event).1
  unfold Client.listing
  rw [h.cache key]
  simp only
  split
  · exact ⟨stored, rfl⟩
  · exact ⟨stored, rfl⟩
  · exact ⟨stored.post _ _, rfl⟩

/-- A change whose turn it is there begins there. -/
theorem begin_there {pending : PendingChange} (holds : other.changes.holder = some pending) :
    Lacks call client (other.beginChange pending) where
  base := h.base
  session := h.session
  cache key := (cache_congr key rfl rfl).trans (h.cache key)
  fair := h.fair
  rests free := by
    rw [show (other.beginChange pending).changes = other.changes from rfl, holds] at free
    cases free
  queue := h.queue
  waiting errand waits apart := List.mem_append_left _ (h.waiting errand waits apart)
  ahead first holds' _ := by
    obtain rfl := Option.some.inj (holds.symm.trans holds')
    exact .inr (List.mem_append_right _ (List.mem_singleton_self _))

/-- A change begins here whose request is to be made there anyway. -/
theorem begin_here (idle : client.changing = false) {pending : PendingChange}
    (waits : pending.call ≠ call → pending.errand ∈ other.errands) :
    Lacks call (client.beginChange pending) other where
  base := h.base
  session := h.session
  cache key := (h.cache key).trans (cache_congr key rfl rfl)
  fair := h.fair
  rests := h.rests
  queue := h.queue
  waiting errand posted apart := by
    rcases List.mem_append.1 posted with posted | new
    · exact h.waiting errand posted apart
    · obtain rfl := List.mem_singleton.1 new
      exact waits apart
  ahead first holds busy := by
    -- nothing is being made here, so the change there must be the one whose request waits
    rcases h.ahead first holds busy with ⟨-, busy⟩ | waits
    · rw [idle] at busy
      cases busy
    · exact .inr waits

theorem claim (fair : client.changes.Fair) {pending : PendingChange} (hc : pending.call ≠ call) :
    Lacks call { client with changes := client.changes.claim pending }
      { other with changes := other.changes.claim pending } where
  base := h.base
  session := h.session
  cache key := (cache_congr key rfl rfl).trans ((h.cache key).trans (cache_congr key rfl rfl))
  fair := FairLock.fair_claim _ _
  rests free := by
    by_cases free' : other.changes.holder = none
    · exact h.rests free'
    · exact absurd ((FairLock.holder_claim_of_held free' pending).symm.trans free) free'
  queue := by
    show (other.changes.claim pending).queue = (client.changes.claim pending).queue.filter _
    rw [FairLock.queue_claim fair, FairLock.queue_claim h.fair, h.queue, List.filter_append]
    simp [hc]
  waiting := h.waiting
  ahead first holds busy := by
    -- the change that is being made there is not the one that joins, which only waits
    have held : other.changes.holder ≠ none := by
      intro free
      have idle := h.rests free
      rw [show other.changing = true from busy] at idle
      cases idle
    have same : other.changes.holder = some first :=
      (FairLock.holder_claim_of_held held pending).symm.trans holds
    rcases h.ahead first same busy with ⟨here, busy⟩ | waits
    · exact .inl ⟨(FairLock.holder_claim_of_held (by simp [here]) pending).trans here, busy⟩
    · exact .inr waits

/-- Another change asks for its turn. It may find the lock free there and held here. -/
theorem enterChange (fair : client.changes.Fair)
    (idle : client.changes.holder = none → client.changing = false) {pending : PendingChange}
    (hc : pending.call ≠ call) :
    Lacks call (client.enterChange pending) (other.enterChange pending) := by
  have claimed := h.claim fair hc
  rcases other.enterChange_cases pending with ⟨free', begun'⟩ | ⟨held', same'⟩
  · have begun := claimed.begin_there (FairLock.holder_claim_of_free free' pending)
    rw [begun']
    rcases client.enterChange_cases pending with ⟨free, begins⟩ | ⟨-, same⟩
    · rw [begins]
      refine begun.begin_here (idle free) fun _ => ?_
      exact List.mem_append_right _ (List.mem_singleton_self _)
    · rw [same]
      exact begun
  · rcases client.enterChange_cases pending with ⟨free, -⟩ | ⟨-, same⟩
    · -- with nobody at the lock here, nobody is at the lock there
      have empty : other.changes.queue = [] := by
        rw [h.queue, FairLock.queue, free, fair free]
        rfl
      rw [FairLock.holder_eq_head? h.fair, empty] at held'
      exact absurd rfl held'
    · rw [same, same']
      exact claimed

/-- The change whose turn it is goes on. It may have begun there already. -/
theorem resumeChange : Lacks call client.resumeChange other.resumeChange := by
  have there : Lacks call client other.resumeChange := by
    rcases other.resumeChange_cases with ⟨first, holds, -, begun⟩ | ⟨-, same⟩
    · rw [begun]
      exact h.begin_there holds
    · rw [same]
      exact h
  rcases client.resumeChange_cases with ⟨first, holds, idle, begun⟩ | ⟨-, same⟩
  · rw [begun]
    refine there.begin_here idle fun apart => ?_
    have holds' := h.holder_of_ne holds apart
    rcases other.resumeChange_cases with ⟨first', holds'', -, begun'⟩ | ⟨rests, same'⟩
    · obtain rfl := Option.some.inj (holds'.symm.trans holds'')
      rw [begun']
      exact List.mem_append_right _ (List.mem_singleton_self _)
    · -- it has begun there before, and waits for its request to be let through
      rw [same']
      have busy' : other.changing = true := rests.resolve_left (by simp [holds'])
      rcases h.ahead first holds' busy' with ⟨-, busy⟩ | waits
      · rw [idle] at busy
        cases busy
      · exact waits
  · rw [same]
    exact there

/-- A change of another call has ended. -/
theorem endChange (fair : client.changes.Fair) {pending : PendingChange}
    (holds : client.changes.holder = some pending) (hc : pending.call ≠ call) :
    Lacks call client.endChange other.endChange where
  base := h.base
  session := h.session
  cache key := by rw [cache_endChange, cache_endChange, h.cache key]
  fair := FairLock.fair_release _
  rests _ := rfl
  queue := by
    show other.changes.release.queue = client.changes.release.queue.filter _
    rw [FairLock.queue_release fair, FairLock.queue_release h.fair, h.queue,
      FairLock.queue_of_holder holds, List.filter_cons_of_pos (by simpa using hc), List.tail_cons,
      List.tail_cons]
  waiting := h.waiting
  ahead _ _ busy := by cases busy

/-- A call is dropped. -/
theorem drop (fair : client.changes.Fair) (gone : Nat) :
    Lacks call (client.drop gone) (other.drop gone) where
  base := h.base
  session := h.session
  cache key := by rw [cache_drop, cache_drop, h.cache key]
  fair := FairLock.fair_abandon h.fair _
  rests free := by
    have changing : (other.drop gone).changing =
        (other.changing && !other.changes.holder.any (·.call == gone)) := rfl
    by_contra busy
    rw [Bool.not_eq_false, changing, Bool.and_eq_true] at busy
    cases hh : other.changes.holder with
    | none =>
      rw [h.rests hh] at busy
      cases busy.1
    | some first =>
      have kept : first.call ≠ gone := by simpa [hh] using busy.2
      rw [(busy_drop_iff.2 ⟨⟨hh, busy.1⟩, kept⟩).1] at free
      cases free
  queue := by
    show (other.changes.abandon _).queue = (client.changes.abandon _).queue.filter _
    rw [FairLock.queue_abandon h.fair, FairLock.queue_abandon fair, h.queue]
    exact List.filter_comm _ _ _
  waiting errand waits apart := by
    obtain ⟨waits, kept⟩ := List.mem_filter.1 waits
    exact List.mem_filter.2 ⟨h.waiting errand waits apart, kept⟩
  ahead pending holds busy := by
    obtain ⟨⟨holds, busy⟩, kept⟩ := busy_drop_iff.1 ⟨holds, busy⟩
    rcases h.ahead pending holds busy with here | waits
    · exact .inl (busy_drop_iff.2 ⟨here, kept⟩)
    · exact .inr (List.mem_filter.2 ⟨waits, by simpa [PendingChange.errand] using kept⟩)

end Both

/-! ## Steps of the call -/

section Alone

variable (h : Lacks call client other)
include h

/-- The change of the call asks for its turn. -/
theorem enterChange_alone (fair : client.changes.Fair)
    (idle : client.changes.holder = none → client.changing = false) {pending : PendingChange}
    (hc : pending.call = call) : Lacks call (client.enterChange pending) other := by
  have claimed : Lacks call { client with changes := client.changes.claim pending } other := by
    refine ⟨h.base, h.session, ?_, h.fair, h.rests, ?_, h.waiting, ?_⟩
    · exact fun key => (h.cache key).trans (cache_congr key rfl rfl)
    · show other.changes.queue = (client.changes.claim pending).queue.filter _
      rw [FairLock.queue_claim fair, h.queue, List.filter_append]
      simp [hc]
    · intro first holds busy
      rcases h.ahead first holds busy with ⟨here, busy⟩ | waits
      · exact .inl ⟨(FairLock.holder_claim_of_held (by simp [here]) pending).trans here, busy⟩
      · exact .inr waits
  rcases client.enterChange_cases pending with ⟨free, begun⟩ | ⟨-, same⟩
  · rw [begun]
    exact claimed.begin_here (idle free) fun apart => absurd hc apart
  · rw [same]
    exact claimed

/-- The request of the call is let through. -/
theorem unpost_alone (errand : Errand) : Lacks call (client.unpost errand) other where
  base := h.base
  session := h.session
  cache key := (h.cache key).trans (cache_congr key rfl rfl)
  fair := h.fair
  rests := h.rests
  queue := h.queue
  waiting other_errand waits apart := h.waiting other_errand (List.mem_filter.1 waits).1 apart
  ahead := h.ahead

/-- The change of the call has ended. -/
theorem endChange_alone (fair : client.changes.Fair) {pending : PendingChange}
    (holds : client.changes.holder = some pending) (hc : pending.call = call) :
    Lacks call client.endChange other where
  base := h.base
  session := h.session
  cache key := by rw [cache_endChange, h.cache key]
  fair := h.fair
  rests := h.rests
  queue := by
    show other.changes.queue = client.changes.release.queue.filter _
    rw [FairLock.queue_release fair, h.queue, FairLock.queue_of_holder holds,
      List.filter_cons_of_neg (by simp [hc]), List.tail_cons]
  waiting := h.waiting
  ahead holder holds' busy := by
    rcases h.ahead holder holds' busy with ⟨here, -⟩ | waits
    · obtain rfl := Option.some.inj (holds.symm.trans here)
      exact absurd hc (h.mem_of_holder holds').2
    · exact .inr waits

/-- The call is dropped; it waits for no listing. -/
theorem drop_alone (fair : client.changes.Fair)
    (unlisted : ∀ key, (client.cache key).drop call = client.cache key) :
    Lacks call (client.drop call) other where
  base := h.base
  session := h.session
  cache key := by rw [cache_drop, unlisted key, h.cache key]
  fair := h.fair
  rests := h.rests
  queue := by
    show other.changes.queue = (client.changes.abandon _).queue.filter _
    rw [FairLock.queue_abandon fair, h.queue, List.filter_filter]
    exact List.filter_congr fun _ _ => (Bool.and_self _).symm
  waiting errand waits apart := h.waiting errand (List.mem_filter.1 waits).1 apart
  ahead pending holds busy := by
    rcases h.ahead pending holds busy with here | waits
    · exact .inl (busy_drop_iff.2 ⟨here, (h.mem_of_holder holds).2⟩)
    · exact .inr waits

end Alone

end Lacks

end Client

end Fleet

/-
What the parts of a client's step do to its caches and to everything else: an event of one
listing changes the cache of that listing and adds at most one request to be made.
-/
import Fleet.Client.Basic

namespace Fleet.Client

/-! ## Caches -/

section Caches

variable (client : Client) (key : ResourceKey)

theorem cache_congr {a b : Client} (hm : a.machines = b.machines)
    (hb : a.blueprints = b.blueprints) : a.cache key = b.cache key := by
  cases key
  · exact hm
  · exact hb

@[simp] theorem cache_withCache (cache : Cache (List key.Item)) :
    (client.withCache key cache).cache key = cache := by
  cases key <;> rfl

theorem cache_withCache_of_ne {other : ResourceKey} (h : other ≠ key)
    (cache : Cache (List key.Item)) :
    (client.withCache key cache).cache other = client.cache other := by
  cases key <;> cases other <;> first | rfl | exact absurd rfl h

theorem withCache_frame (cache : Cache (List key.Item)) :
    ∃ machines blueprints, client.withCache key cache = { client with machines, blueprints } := by
  cases key
  · exact ⟨cache, client.blueprints, rfl⟩
  · exact ⟨client.machines, cache, rfl⟩

/-- Nothing but the caches and the requests to be made differs. -/
theorem listing_frame (now : Nat) (event : Cache.Event (List key.Item)) :
    ∃ machines blueprints errands, (client.listing key now event).1 =
      { client with machines, blueprints, errands } := by
  obtain ⟨machines, blueprints, h⟩ :=
    client.withCache_frame key ((client.cache key).step now event).1
  unfold listing
  simp only
  rw [h]
  split
  · exact ⟨machines, blueprints, _, rfl⟩
  · exact ⟨machines, blueprints, _, rfl⟩
  · exact ⟨machines, blueprints, _, rfl⟩

@[simp] theorem cache_post (call : Nat) (purpose : Purpose) :
    (client.post call purpose).cache key = client.cache key := cache_congr key rfl rfl

@[simp] theorem cache_endChange : client.endChange.cache key = client.cache key :=
  cache_congr key rfl rfl

@[simp] theorem cache_enterChange (pending : PendingChange) :
    (client.enterChange pending).cache key = client.cache key := by
  unfold enterChange
  split <;> exact cache_congr key rfl rfl

@[simp] theorem cache_resumeChange : client.resumeChange.cache key = client.cache key := by
  unfold resumeChange
  split <;> exact cache_congr key rfl rfl

@[simp] theorem cache_drop (call : Nat) :
    (client.drop call).cache key = (client.cache key).drop call := by
  cases key <;> rfl

@[simp] theorem cache_invalidate :
    (client.invalidate key).cache key = (client.cache key).invalidate := cache_withCache _ _ _

theorem cache_invalidate_of_ne {other : ResourceKey} (h : other ≠ key) :
    (client.invalidate key).cache other = client.cache other := cache_withCache_of_ne _ _ h _

@[simp] theorem cache_setSession (session : Option SessionCookie) :
    (client.setSession session).cache key = (client.cache key).invalidate := by
  cases key <;> rfl

theorem cache_abort (now : Nat) {errand : Errand} (unlisted : ∀ key, errand.purpose ≠ .listing key)
    (failure : Failure) :
    ((client.unpost errand).abort now errand failure).1.cache key = client.cache key := by
  unfold abort
  cases h : errand.purpose with
  | listing other => exact absurd h (unlisted other)
  | blueprint | value | change => exact cache_congr key rfl rfl

@[simp] theorem cache_listing (now : Nat) (event : Cache.Event (List key.Item)) :
    (client.listing key now event).1.cache key = ((client.cache key).step now event).1 := by
  unfold listing
  simp only
  split <;> simp

theorem cache_listing_of_ne {other : ResourceKey} (h : other ≠ key) (now : Nat)
    (event : Cache.Event (List key.Item)) :
    (client.listing key now event).1.cache other = client.cache other := by
  unfold listing
  simp only
  split <;> simp [cache_withCache_of_ne _ _ h]

theorem errands_listing_of_fetch {now call : Nat} {event : Cache.Event (List key.Item)}
    (h : ((client.cache key).step now event).2 = some (.fetch call)) :
    (client.listing key now event).1.errands = client.errands ++ [⟨call, .listing key⟩] := by
  obtain ⟨machines, blueprints, hw⟩ :=
    client.withCache_frame key ((client.cache key).step now event).1
  unfold listing
  simp only [h, hw]
  rfl

theorem errands_listing {now : Nat} {event : Cache.Event (List key.Item)}
    (h : ∀ call, ((client.cache key).step now event).2 ≠ some (.fetch call)) :
    (client.listing key now event).1.errands = client.errands := by
  obtain ⟨machines, blueprints, hw⟩ :=
    client.withCache_frame key ((client.cache key).step now event).1
  unfold listing
  simp only [hw]
  split
  · rfl
  · rfl
  · rename_i call hf
    exact absurd hf (h call)

end Caches

/-! ## Replies to changes -/

section Changes

variable {client : Client} {exchange : Exchange} {change : Change} {reply : Option Reply}

theorem receiveChange_of_isOk (h : (exchange.result change.decode? reply).isOk = true) :
    (client.receiveChange exchange change reply).1 = (client.invalidate .blueprints).endChange := by
  unfold receiveChange
  cases hr : exchange.result change.decode? reply with
  | ok answer => rfl
  | error failure =>
    rw [hr] at h
    cases h

theorem receiveChange_of_not_isOk (h : ¬ (exchange.result change.decode? reply).isOk = true) :
    (client.receiveChange exchange change reply).1 = client.endChange := by
  unfold receiveChange
  cases hr : exchange.result change.decode? reply with
  | ok answer =>
    rw [hr] at h
    exact absurd rfl h
  | error failure => rfl

end Changes

end Fleet.Client

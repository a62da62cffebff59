/-
Accepted changes to blueprints. If the client can use the reply, the blueprint listing is stale from
then on, and who reads it next asks the backend for it. If the client cannot, the call fails and the
listing stays as fresh as it was (`accepted_change`), although the backend has made the
change (`served_after_change`).
-/
import Fleet.Proofs.Cache.Invalidation
import Fleet.Proofs.Client.Answers
import Fleet.Proofs.Client.Fetching
import Fleet.Proofs.Client.ApiBase

namespace Fleet

theorem ResourceKey.head?_path (key : ResourceKey) : key.path.toList.head? = some '/' := by
  cases key <;> decide

theorem head?_blueprintPath (id : ResourceId) : (blueprintPath id).toList.head? = some '/' := by
  have path : blueprintPath id = ResourceKey.blueprints.path ++ ("/" ++ id.text) :=
    String.append_assoc
  rw [path, String.toList_append, List.head?_append, ResourceKey.head?_path, Option.some_or]

/-- Changes are sent to the path of the listing or to that of a blueprint. -/
theorem Change.head?_path (change : Change) : change.path.toList.head? = some '/' := by
  cases change with
  | create draft => exact ResourceKey.head?_path .blueprints
  | update id draft | delete id => exact head?_blueprintPath id

namespace Client.Run

variable {run : Run}

/-! ## Replies to changes -/

section Replies

variable {n : Nat} {exchange : Exchange} {reply : Option Reply} {change : Change}
  (he : run.event n = some (.receive exchange reply)) (purpose : exchange.purpose = .change change)
include he purpose

/-- The call is answered with what the reply comes to. -/
theorem effect_of_change :
    run.effect n = some (.answer exchange.call (exchange.result change.decode? reply)) := by
  rw [effect_eq he, step, receive, purpose]
  simp only [receiveChange]
  cases exchange.result change.decode? reply <;> rfl

/-- The reply makes the blueprint listing stale if it can be used, and otherwise touches no
listing. -/
theorem listing_event_of_change (key : ResourceKey) : (run.listing key).event n =
    if key = .blueprints ∧ (exchange.result change.decode? reply).isOk then some .invalidate
    else none := by
  rw [run.listing_event key he]
  simp only [cacheEvent?, purpose]

/-- If the request for a change could be made, so can every request for the listing. -/
theorem request_of_change (m : Nat) :
    ∃ url, run.initial.base.requestUrl ResourceKey.blueprints.path = .ok url ∧
      (run.state m).request (.listing .blueprints) =
        .ok ⟨.get, url, (run.state m).session, none⟩ := by
  obtain ⟨p, -, sends⟩ := sent_of_inFlight (run.heard he)
  obtain ⟨-, -, made⟩ := dispatch_of_send sends
  rw [purpose] at made
  obtain ⟨url, hu, -⟩ := request_eq_ok_iff.1 made
  rw [run.base_eq] at hu
  obtain ⟨listing, hl⟩ := ApiBase.exists_requestUrl change.head?_path
    (ResourceKey.head?_path .blueprints) hu
  exact ⟨listing, hl, request_eq_ok_iff.2 ⟨listing, by rw [run.base_eq]; exact hl, rfl⟩⟩

end Replies

theorem result_of_isAccepted (exchange : Exchange) (change : Change) {reply : Reply}
    (accepted : reply.isAccepted) : exchange.result change.decode? (some reply) =
      (change.decode? reply).elim (.error exchange.unusable) .ok := by
  simp only [Exchange.result, accepted, if_true]
  cases change.decode? reply <;> rfl

/-! ## Reading afterwards -/

/-- The request of a call for the blueprint listing. -/
def blueprintsErrand (call : Nat) : Errand := ⟨call, .listing .blueprints⟩

/-- The call that begins in step `j` asks the backend for the blueprint listing. -/
structure AsksAnew (run : Run) (j call : Nat) : Prop where
  /-- With nobody ahead of the call, its request is to be made at once. -/
  posts : ((run.state j).cache .blueprints).lock.holder = none →
    blueprintsErrand call ∈ (run.state (j + 1)).errands
  /-- The rate lets the request through: a GET of the listing is sent. -/
  sends : ∀ {p : Nat}, run.event p = some (.dispatch (blueprintsErrand call)) →
    blueprintsErrand call ∈ (run.state p).errands →
    ∃ url, run.initial.base.requestUrl ResourceKey.blueprints.path = .ok url ∧
      run.effect p =
        some (.send ⟨blueprintsErrand call, .get, url, (run.state p).session, none⟩)
  /-- The call is answered with the reply to a request that was sent after it began. -/
  answers : ∀ {k : Nat} {result : Except Failure Answer},
    run.effect k = some (.answer call result) →
    ∃ response : run.Response .blueprints, j < response.sent ∧ response.received ≤ k ∧
      result = response.outcome.map .blueprints
  /-- It is answered, unless callers are dropped or somebody waits for ever. -/
  answered : (run.listing .blueprints).Undropped → (run.listing .blueprints).Fair →
    ∃ k result, j ≤ k ∧ run.effect k = some (.answer call result)

section Reading

variable {j call : Nat} (hj : run.event j = some (.start call .blueprints))
include hj

/-- A fresh listing is served without a request. -/
theorem not_asksAnew_of_fresh {list : List Blueprint}
    (fresh : ((run.state j).cache .blueprints).fresh? (run.clock j) = some list) :
    run.effect j = some (.answer call (.ok (.blueprints list))) ∧ ¬ run.AsksAnew j call := by
  have hc : (run.listing .blueprints).effect j = some (.answer call (.ok list)) := by
    rw [← listing_state] at fresh
    simp only [Cache.Run.effect, listing_event_of_reads hj rfl, Option.bind_some, Cache.step,
      Cache.read]
    rw [show (run.listing .blueprints).clock j = run.clock j from rfl, fresh]
  have served : run.effect j = some (.answer call (.ok (.blueprints list))) := effect_of_listing hc
  refine ⟨served, fun asks => ?_⟩
  obtain ⟨response, hs, hr, -⟩ := asks.answers served
  have := response.sent_lt_received
  omega

section Grounded

variable (grounded : (run.listing .blueprints).running j = [])
  (made : ∀ m, ∃ url, run.initial.base.requestUrl ResourceKey.blueprints.path = .ok url ∧
    (run.state m).request (.listing .blueprints) = .ok ⟨.get, url, (run.state m).session, none⟩)
include grounded made

/-- When the listing is stale and no fetch of it is under way, the call is answered with the reply
to a request that was sent after it began. -/
theorem response_of_stale
    (stale : ((run.state j).cache .blueprints).fresh? (run.clock j) = none) {k : Nat}
    {result : Except Failure Answer} (hk : run.effect k = some (.answer call result)) :
    ∃ response : run.Response .blueprints, j < response.sent ∧ response.received ≤ k ∧
      result = response.outcome.map .blueprints := by
  rw [← listing_state] at stale
  rcases answer_of_listing hj rfl hk with ⟨ho, -⟩ | ⟨-, outcome, hc, rfl⟩
  · cases ho
  · obtain ⟨landing, hm, rfl, hb⟩ :=
      Cache.Run.answer_of_stale (listing_event_of_reads hj rfl) stale grounded hc
    have hend := (Cache.Run.landing_spec hm).1
    rcases landing_cases hm with ⟨response, hs, hr, ho⟩ | ⟨failure, unmade, -⟩
    · exact ⟨response, by omega, by omega, by rw [ho]; rfl⟩
    · -- the request can be made, so no fetch ends without one
      obtain ⟨url, -, made⟩ := made landing.ended
      rw [made] at unmade
      cases unmade

theorem asksAnew_of_stale
    (stale : ((run.state j).cache .blueprints).fresh? (run.clock j) = none) :
    run.AsksAnew j call where
  posts free := by
    rw [← listing_state] at free stale
    have fetched := Cache.Run.fetch_of_stale (listing_event_of_reads hj rfl) stale free
    have posted : blueprintsErrand call ∈ run.errandsFor .blueprints (j + 1) := by
      rw [(fetch_spec fetched).1]
      exact List.mem_append_right _ (List.mem_singleton_self _)
    exact (List.mem_filter.1 posted).1
  sends {p} hp waits := by
    obtain ⟨url, hu, made⟩ := made p
    refine ⟨url, hu, ?_⟩
    rw [effect_eq hp, step, dispatch, if_pos waits]
    simp only [blueprintsErrand, made]
  answers hk := response_of_stale hj grounded made stale hk
  answered undropped fair := by
    obtain ⟨k, outcome, hjk, hc⟩ := Cache.Run.answered_of_begins undropped fair
      (Cache.Run.begins_of_read (listing_event_of_reads hj rfl))
    exact ⟨k, _, hjk, effect_of_listing hc⟩

/-- With no fetch under way the backend is asked exactly if the listing is stale. -/
theorem asksAnew_iff : run.AsksAnew j call ↔
    ((run.state j).cache .blueprints).fresh? (run.clock j) = none := by
  refine ⟨fun asks => ?_, asksAnew_of_stale hj grounded made⟩
  by_contra fresh
  obtain ⟨list, fresh⟩ := Option.ne_none_iff_exists'.1 fresh
  exact (not_asksAnew_of_fresh hj fresh).2 asks

end Grounded

end Reading

/-! ## After an accepted change -/

/-- What comes of a change that the backend has accepted with a reply in step `n`. -/
structure Accepted (run : Run) (n : Nat) (exchange : Exchange) (change : Change) (reply : Reply) :
    Prop where
  /-- The call gives what the reply says, and fails if the reply says nothing. -/
  answer : run.effect n = some (.answer exchange.call
    ((change.decode? reply).elim (.error exchange.unusable) .ok))
  /-- If it says nothing, all listings stay as they are. -/
  untouched : change.decode? reply = none →
    ∀ key, (run.state (n + 1)).cache key = (run.state n).cache key
  /-- A later read, with no fetch under way and none begun since, asks the backend exactly if the
  reply says something or the listing is stale anyway. -/
  asks : ∀ {j call : Nat}, n < j → run.event j = some (.start call .blueprints) →
    (run.listing .blueprints).running j = [] →
    (∀ b, n < b → b < j → ∀ other, (run.listing .blueprints).effect b ≠ some (.fetch other)) →
    (run.AsksAnew j call ↔ (change.decode? reply).isSome ∨
      ((run.state j).cache .blueprints).fresh? (run.clock j) = none)

section Replies

variable {n : Nat} {exchange : Exchange} {reply : Reply} {change : Change}
  (he : run.event n = some (.receive exchange (some reply)))
  (purpose : exchange.purpose = .change change) (accepted : reply.isAccepted)
include he purpose accepted

/-- A reply that says nothing touches no listing. -/
theorem cache_of_not_decodes (undecoded : change.decode? reply = none) (key : ResourceKey) :
    (run.state (n + 1)).cache key = (run.state n).cache key := by
  have untouched : (run.listing key).event n = none := by
    rw [listing_event_of_change he purpose, result_of_isAccepted _ _ accepted, undecoded]
    exact if_neg fun h => by cases h.2
  rw [← listing_state, ← listing_state]
  simp only [Cache.Run.state, untouched]

/-- A reply that says something makes the blueprint listing stale, until it is fetched again. -/
theorem stale_of_decodes (decodes : (change.decode? reply).isSome) {j call : Nat} (hnj : n < j)
    (hj : run.event j = some (.start call .blueprints))
    (unfetched : ∀ b, n < b → b < j → ∀ other,
      (run.listing .blueprints).effect b ≠ some (.fetch other)) :
    ((run.state j).cache .blueprints).fresh? (run.clock j) = none := by
  have spoiled : (run.listing .blueprints).event n = some .invalidate := by
    obtain ⟨answer, hd⟩ := Option.isSome_iff_exists.1 decodes
    rw [listing_event_of_change he purpose, result_of_isAccepted _ _ accepted, hd]
    rfl
  rw [← listing_state]
  exact Cache.Run.stale_of_unfetched spoiled hnj (listing_event_of_reads hj rfl) unfetched

end Replies

/-- Accepted changes make the blueprint listing stale, provided their replies can be used. -/
theorem accepted_change {n : Nat} {exchange : Exchange} {reply : Reply} {change : Change}
    (he : run.event n = some (.receive exchange (some reply)))
    (purpose : exchange.purpose = .change change) (accepted : reply.isAccepted) :
    run.Accepted n exchange change reply where
  answer := by rw [effect_of_change he purpose, result_of_isAccepted _ _ accepted]
  untouched := cache_of_not_decodes he purpose accepted
  asks := by
    intro j call hnj hj grounded unfetched
    rw [asksAnew_iff hj grounded (request_of_change he purpose)]
    constructor
    · exact .inr
    · rintro (decodes | stale)
      · exact stale_of_decodes he purpose accepted decodes hnj hj unfetched
      · exact stale

/-! ## A change whose reply cannot be used -/

def unreadDraft : Draft := ⟨"web", "linux", "1", .object []⟩

def unreadListing : Exchange := plainExchange 0 (.listing .blueprints) ["blueprints"]

def unreadChange : Exchange := plainExchange 1 (.change (.create unreadDraft)) ["blueprints"]

def unreadEvents : List Event := [
  .start 0 .blueprints, .dispatch (blueprintsErrand 0),
  .receive unreadListing (some ⟨200, some "[]"⟩),
  .start 1 (.change (.create unreadDraft)), .dispatch unreadChange.toErrand,
  .receive unreadChange (some ⟨201, some "\x7b\x7d"⟩), .start 2 .blueprints]

/-- The blueprints are fetched, a blueprint is created with a reply that does not hold it, and then
the blueprints are asked for. -/
def unread : Run :=
  ofEvents plainSettings isOk_plainSettings unreadEvents (by decide) (by decide +kernel)

theorem unread_undecoded : (Change.create unreadDraft).decode? ⟨201, some "\x7b\x7d"⟩ = none := by
  have h : (⟨201, some "\x7b\x7d"⟩ : Reply).blueprint? = none := by decide +kernel
  rw [Change.decode?, h]
  rfl

theorem unread_listing : (unread.listing .blueprints).running 6 = [] ∧
    (∀ b, 5 < b → b < 6 → ∀ other, (unread.listing .blueprints).effect b ≠ some (.fetch other)) ∧
    ((unread.state 6).cache .blueprints).fresh? (unread.clock 6) = some [] := by
  have h0 : (unread.listing .blueprints).event 0 = some (.read 0) := rfl
  have h1 : (unread.listing .blueprints).event 1 = none :=
    Option.isNone_iff_eq_none.1 (by decide +kernel)
  have h2 : (unread.listing .blueprints).event 2 = some (.finish (.ok [])) := by
    rw [← Exchange.outcome_of_bare unreadListing]
    rfl
  have h3 : (unread.listing .blueprints).event 3 = none := rfl
  have h4 : (unread.listing .blueprints).event 4 = none := by
    rw [unread.listing_event .blueprints
      (show unread.event 4 = some (.dispatch unreadChange.toErrand) from rfl)]
    simp [cacheEvent?, unreadChange, plainExchange]
  have h5 : (unread.listing .blueprints).event 5 = none := by
    rw [listing_event_of_change (show unread.event 5 = some (.receive unreadChange _) from rfl) rfl,
      result_of_isAccepted _ _ rfl, unread_undecoded]
    rfl
  refine ⟨?_, fun b _ _ => by omega, ?_⟩
  · simp only [Cache.Run.running, Cache.Run.history, Cache.Run.effect, Cache.Run.state, h0, h1, h2,
      h3, h4, h5]
    rfl
  · rw [← listing_state]
    simp only [Cache.Run.state, h0, h1, h2, h3, h4, h5]
    rfl

theorem unread_accepted :
    unread.event 5 = some (.receive unreadChange (some ⟨201, some "\x7b\x7d"⟩)) ∧
    unreadChange.purpose = .change (.create unreadDraft) ∧
    (⟨201, some "\x7b\x7d"⟩ : Reply).isAccepted ∧
    unread.Accepted 5 unreadChange (.create unreadDraft) ⟨201, some "\x7b\x7d"⟩ :=
  ⟨rfl, rfl, rfl, accepted_change rfl rfl rfl⟩

/-- In this run the change is accepted, and the read after it is served with the old listing. -/
theorem served_after_change :
    unread.event 5 = some (.receive unreadChange (some ⟨201, some "\x7b\x7d"⟩)) ∧
    unreadChange.purpose = .change (.create unreadDraft) ∧
    unread.event 6 = some (.start 2 .blueprints) ∧
    (unread.listing .blueprints).running 6 = [] ∧
    (∀ b, 5 < b → b < 6 → ∀ other, (unread.listing .blueprints).effect b ≠ some (.fetch other)) ∧
    unread.effect 6 = some (.answer 2 (.ok (.blueprints []))) ∧ ¬ unread.AsksAnew 6 2 := by
  obtain ⟨grounded, unfetched, fresh⟩ := unread_listing
  exact ⟨rfl, rfl, rfl, grounded, unfetched, not_asksAnew_of_fresh rfl fresh⟩

end Client.Run

end Fleet

/-
Fetches of a listing and the requests they are for. A listing has a request to be made or under
way exactly while a fetch of its cache runs, and then one (`awaiting_eq`). So a fetch that ends
with a reply is one whose request was sent after it began, with the credential of that moment
(`landing_cases`).
-/
import Fleet.Proofs.Client.Requests

namespace Fleet

/-- A body that is no object is an empty listing. -/
theorem Exchange.outcome_of_bare (exchange : Exchange) (key : ResourceKey) :
    exchange.outcome key (some ⟨200, some "[]"⟩) = .ok [] := by
  have hread : Json.read "[]" = .ok (.array []) := by decide +kernel
  have hlist : Listing.decode key (.array []) = [] := by
    cases key
    · rfl
    · exact List.mergeSort_nil
  simp only [Exchange.outcome, Exchange.result, Reply.json?, Option.bind_eq_bind, Option.bind_some,
    hread, Except.toOption, Option.map_some, hlist]
  rfl

namespace Client.Run

variable {run : Run} {key : ResourceKey}

/-! ## Requests for a listing -/

/-- The requests for a listing that are to be made. -/
def errandsFor (run : Run) (key : ResourceKey) (n : Nat) : List Errand :=
  (run.state n).errands.filter (·.purpose = .listing key)

/-- The requests for a listing that are under way. -/
def exchangesFor (run : Run) (key : ResourceKey) (n : Nat) : List Exchange :=
  (run.inFlight n).filter (·.purpose = .listing key)

/-- The calls whose requests for a listing are to be made or under way. -/
def awaiting (run : Run) (key : ResourceKey) (n : Nat) : List Nat :=
  (run.errandsFor key n).map (·.call) ++ (run.exchangesFor key n).map (·.call)

/-- A fetch of a listing ends with a reply, or because its request cannot be made. -/
theorem finish_cases {n : Nat} {outcome : Outcome (List key.Item)}
    (h : (run.listing key).event n = some (.finish outcome)) :
    (∃ exchange reply, run.event n = some (.receive exchange reply) ∧
      exchange.purpose = .listing key ∧ outcome = exchange.outcome key reply) ∨
    (∃ errand failure, run.event n = some (.dispatch errand) ∧
      errand ∈ (run.state n).errands ∧ errand.purpose = .listing key ∧
      (run.state n).request (.listing key) = .error failure ∧ outcome = .error failure) := by
  obtain ⟨event, he, hc⟩ := Option.bind_eq_some_iff.1 h
  rcases cacheEvent?_cases hc with ⟨left, touches⟩ | ⟨-, hn⟩ | ⟨call, -, hn⟩
  · cases touches with
    | reply purpose => exact .inl ⟨_, _, he, purpose, rfl⟩
    | abort waits purpose unmade => exact .inr ⟨_, _, he, waits, purpose, unmade, rfl⟩
  · cases hn
  · cases hn

/-- A listing is fetched when a call begins or its turn comes; then a request is to be made. -/
theorem fetch_spec {n call : Nat} (h : (run.listing key).effect n = some (.fetch call)) :
    run.errandsFor key (n + 1) = run.errandsFor key n ++ [⟨call, .listing key⟩] ∧
      run.inFlight (n + 1) = run.inFlight n := by
  obtain ⟨cacheEvent, hc, -⟩ := Option.bind_eq_some_iff.1 h
  obtain ⟨event, he, -⟩ := Option.bind_eq_some_iff.1 hc
  rw [listing_effect run key he] at h
  refine ⟨?_, ?_⟩
  · rw [errandsFor, state_succ he, errands_of_fetch h, List.filter_append]
    simp [errandsFor]
  · obtain ⟨cacheEvent, left, touches, hf⟩ := touches_of_cacheEffect? h
    have quiet : (∀ errand, event ≠ .dispatch errand) ∧
        (∀ exchange reply, event ≠ .receive exchange reply) ∧ ∀ call, event ≠ .drop call := by
      cases touches with
      | reply | abort => exact absurd hf (Cache.finish_ne_fetch _ _ _ _)
      | read | refresh | resume => simp
    refine inFlight_of_unsent (unsent he quiet.1) ?_ ?_
    · intro exchange reply h
      rw [he] at h
      exact quiet.2.1 _ _ (Option.some.inj h)
    · intro call h
      rw [he] at h
      exact quiet.2.2 _ (Option.some.inj h)

theorem errandsFor_of_dispatch {n : Nat} {errand : Errand}
    (he : run.event n = some (.dispatch errand)) :
    run.errandsFor key (n + 1) = (run.errandsFor key n).filter (· ≠ errand) := by
  have hd : (run.state (n + 1)).errands = (run.state n).errands.filter (· ≠ errand) := by
    rw [state_succ he]
    exact errands_dispatch _ _ _
  rw [errandsFor, hd, errandsFor, List.filter_filter, List.filter_filter]
  exact List.filter_congr fun _ _ => Bool.and_comm _ _

/-- A step that neither lets a request through nor drops a call, and in which nothing is fetched,
leaves the requests to be made for the listing as they are. -/
theorem errandsFor_of_unfetched {n : Nat} {event : Event} (he : run.event n = some event)
    (unfetched : ∀ call, (run.listing key).effect n ≠ some (.fetch call))
    (h : ∀ errand, event ≠ .dispatch errand) (undropped : ∀ call, event ≠ .drop call) :
    run.errandsFor key (n + 1) = run.errandsFor key n := by
  unfold errandsFor
  rcases (transition he).errands_cases with hs | ⟨call, purpose, posted, hs⟩ | ⟨errand, _, hd, _⟩ |
    ⟨call, hd, _⟩
  · rw [hs]
  · have other : purpose ≠ .listing key := by
      rintro rfl
      cases posted with
      | listing fetches => exact unfetched call (by rw [listing_effect run key he, fetches])
      | other starts posts => cases posts
    rw [hs, List.filter_append]
    simp [other]
  · exact absurd hd (h errand)
  · exact absurd hd (undropped call)

theorem drop_of_listing {n call : Nat} (h : (run.listing key).event n = some (.drop call)) :
    run.event n = some (.drop call) := by
  obtain ⟨event, he, hc⟩ := Option.bind_eq_some_iff.1 h
  rcases cacheEvent?_cases hc with ⟨left, touches⟩ | ⟨-, hn⟩ | ⟨other, rfl, hn⟩
  · cases touches
  · cases hn
  · cases hn
    exact he

/-! ## One request for each fetch -/

section Awaiting

variable {n : Nat} (tied : run.awaiting key n = ((run.listing key).running n).map (·.call))
include tied

theorem length_awaiting_le :
    (run.errandsFor key n).length + (run.exchangesFor key n).length ≤ 1 := by
  have h := congrArg List.length tied
  simp only [awaiting, List.length_append, List.length_map] at h
  rw [h]
  exact (run.listing key).length_running_le n

theorem alone_of_errand {errand : Errand} (h : errand ∈ run.errandsFor key n) :
    run.errandsFor key n = [errand] ∧ run.exchangesFor key n = [] := by
  have hle := length_awaiting_le tied
  have hpos := List.length_pos_of_mem h
  obtain ⟨first, hf⟩ := List.length_eq_one_iff.1
    (show (run.errandsFor key n).length = 1 by omega)
  rw [hf, List.mem_singleton] at h
  exact ⟨by rw [hf, h], List.length_eq_zero_iff.1 (by omega)⟩

theorem alone_of_exchange {exchange : Exchange} (h : exchange ∈ run.exchangesFor key n) :
    run.exchangesFor key n = [exchange] ∧ run.errandsFor key n = [] := by
  have hle := length_awaiting_le tied
  have hpos := List.length_pos_of_mem h
  obtain ⟨first, hf⟩ := List.length_eq_one_iff.1
    (show (run.exchangesFor key n).length = 1 by omega)
  rw [hf, List.mem_singleton] at h
  exact ⟨by rw [hf, h], List.length_eq_zero_iff.1 (by omega)⟩

/-- A request for the listing is let through: it is under way now, or its fetch has ended. -/
theorem awaiting_of_dispatch {errand : Errand} (he : run.event n = some (.dispatch errand))
    (waits : errand ∈ (run.state n).errands) (purpose : errand.purpose = .listing key) :
    run.awaiting key (n + 1) = ((run.listing key).running (n + 1)).map (·.call) := by
  obtain ⟨onlyErrand, noExchange⟩ :=
    alone_of_errand tied (List.mem_filter.2 ⟨waits, decide_eq_true purpose⟩)
  have left : run.errandsFor key (n + 1) = [] := by
    rw [errandsFor_of_dispatch he, onlyErrand]
    simp
  have hl := run.listing_event key he
  simp only [cacheEvent?, waits, purpose, and_self, if_true] at hl
  cases made : (run.state n).request (.listing key) with
  | ok request =>
    rw [made] at hl
    have sent : run.effect n = some (.send ⟨errand, request⟩) := by
      simp [effect_eq he, step, dispatch, waits, purpose, made]
    rw [Cache.Run.running_of_none hl, ← tied, awaiting, left, awaiting, onlyErrand, noExchange,
      exchangesFor, inFlight_of_send sent]
    unfold exchangesFor at noExchange
    simp [purpose, noExchange]
  | error failure =>
    rw [made] at hl
    have quiet : ∀ exchange, run.effect n ≠ some (.send exchange) := by
      intro exchange hf
      obtain ⟨hd, -, hr⟩ := dispatch_of_send hf
      rw [he] at hd
      cases hd
      rw [purpose, made] at hr
      cases hr
    rw [Cache.Run.running_of_finish hl, awaiting, left, exchangesFor,
      inFlight_of_unsent quiet (by simp [he]) (by simp [he])]
    unfold exchangesFor at noExchange
    simp [noExchange]

/-- A request for something else is let through. -/
theorem awaiting_of_other_dispatch {errand : Errand} (he : run.event n = some (.dispatch errand))
    (h : ¬ (errand ∈ (run.state n).errands ∧ errand.purpose = .listing key)) :
    run.awaiting key (n + 1) = ((run.listing key).running (n + 1)).map (·.call) := by
  have hl := run.listing_event key he
  simp only [cacheEvent?, if_neg h] at hl
  have sameErrands : run.errandsFor key (n + 1) = run.errandsFor key n := by
    rw [errandsFor_of_dispatch he, List.filter_eq_self]
    intro other ho
    obtain ⟨hm, hp⟩ := List.mem_filter.1 ho
    simp only [ne_eq, decide_not, Bool.not_eq_eq_eq_not, Bool.not_true, decide_eq_false_iff_not]
    rintro rfl
    exact h ⟨hm, of_decide_eq_true hp⟩
  have sameExchanges : run.exchangesFor key (n + 1) = run.exchangesFor key n := by
    unfold exchangesFor
    by_cases sent : ∃ exchange, run.effect n = some (.send exchange)
    · obtain ⟨exchange, hf⟩ := sent
      obtain ⟨hd, hw, -⟩ := dispatch_of_send hf
      rw [he] at hd
      cases hd
      have other : exchange.purpose ≠ .listing key := fun hp => h ⟨hw, hp⟩
      rw [inFlight_of_send hf, List.filter_cons_of_neg (by simp [other])]
    · rw [inFlight_of_unsent (fun exchange hf => sent ⟨exchange, hf⟩) (by simp [he]) (by simp [he])]
  rw [Cache.Run.running_of_none hl, ← tied, awaiting, sameErrands, sameExchanges, awaiting]

/-- A reply comes: if it is one for the listing, its fetch has ended. -/
theorem awaiting_of_receive {exchange : Exchange} {reply : Option Reply}
    (he : run.event n = some (.receive exchange reply))
    (unfetched : ∀ call, (run.listing key).effect n ≠ some (.fetch call)) :
    run.awaiting key (n + 1) = ((run.listing key).running (n + 1)).map (·.call) := by
  have heard : exchange ∈ run.inFlight n := run.heard he
  have sameErrands := errandsFor_of_unfetched he unfetched (by simp) (by simp)
  have left : run.exchangesFor key (n + 1) = (run.exchangesFor key n).filter (· ≠ exchange) := by
    rw [exchangesFor, inFlight_of_receive he, exchangesFor, List.filter_filter, List.filter_filter]
    exact List.filter_congr fun _ _ => Bool.and_comm _ _
  by_cases purpose : exchange.purpose = .listing key
  · obtain ⟨onlyExchange, noErrand⟩ :=
      alone_of_exchange tied (List.mem_filter.2 ⟨heard, decide_eq_true purpose⟩)
    have hl := run.listing_event key he
    simp only [cacheEvent?, purpose, if_true] at hl
    rw [Cache.Run.running_of_finish hl, awaiting, sameErrands, noErrand, left, onlyExchange]
    simp
  · have sameExchanges : run.exchangesFor key (n + 1) = run.exchangesFor key n := by
      rw [left, List.filter_eq_self]
      intro other ho
      simp only [ne_eq, decide_not, Bool.not_eq_eq_eq_not, Bool.not_true, decide_eq_false_iff_not]
      rintro rfl
      exact purpose (of_decide_eq_true (List.mem_filter.1 ho).2)
    have unfinished : ∀ outcome, (run.listing key).event n ≠ some (.finish outcome) := by
      intro outcome hf
      rcases finish_cases hf with ⟨other, _, he', hp, -⟩ | ⟨errand, _, he', -⟩
      · rw [he] at he'
        cases he'
        exact purpose hp
      · rw [he] at he'
        cases he'
    have undropped : ∀ call, (run.listing key).event n ≠ some (.drop call) := by
      intro call hd
      have := drop_of_listing hd
      rw [he] at this
      cases this
    rw [Cache.Run.running_of_unfetched unfetched unfinished undropped, ← tied, awaiting,
      sameErrands, sameExchanges, awaiting]

theorem awaiting_of_drop {call : Nat} (he : run.event n = some (.drop call)) :
    run.awaiting key (n + 1) = ((run.listing key).running (n + 1)).map (·.call) := by
  have hl : (run.listing key).event n = some (.drop call) := run.listing_event key he
  have hd : (run.state (n + 1)).errands = (run.state n).errands.filter (·.call != call) := by
    rw [state_succ he]
    rfl
  -- a drop takes the same call out of both lists
  have h := congrArg (List.filter (· != call)) tied
  simp only [awaiting, errandsFor, exchangesFor, List.filter_append, List.filter_map,
    List.filter_filter, Function.comp_def] at h ⊢
  rw [Cache.Run.running_of_drop hl, hd, inFlight_of_drop he]
  simp only [List.filter_filter]
  simpa only [Bool.and_comm] using h

/-- Nothing else touches the requests for the listing, unless one is posted. -/
theorem awaiting_of_quiet {event : Event} (he : run.event n = some event)
    (unfetched : ∀ call, (run.listing key).effect n ≠ some (.fetch call))
    (undispatched : ∀ errand, event ≠ .dispatch errand)
    (unheard : ∀ exchange reply, event ≠ .receive exchange reply)
    (undropped : ∀ call, event ≠ .drop call) :
    run.awaiting key (n + 1) = ((run.listing key).running (n + 1)).map (·.call) := by
  have same : ∀ {other : Event}, run.event n = some other → other = event := by
    intro other ho
    exact Option.some.inj (ho.symm.trans he)
  have sameExchanges : run.exchangesFor key (n + 1) = run.exchangesFor key n := by
    unfold exchangesFor
    rw [inFlight_of_unsent (unsent he undispatched) (fun exchange reply h => unheard _ _ (same h).symm)
      (fun call h => undropped _ (same h).symm)]
  have unfinished : ∀ outcome, (run.listing key).event n ≠ some (.finish outcome) := by
    intro outcome hf
    rcases finish_cases hf with ⟨_, _, he', -⟩ | ⟨_, _, he', -⟩
    · exact unheard _ _ (same he').symm
    · exact undispatched _ (same he').symm
  rw [Cache.Run.running_of_unfetched unfetched unfinished
      (fun call hd => undropped _ (same (drop_of_listing hd)).symm),
    ← tied, awaiting, errandsFor_of_unfetched he unfetched undispatched undropped, sameExchanges,
    awaiting]

end Awaiting

/-- A listing has a request to be made or under way exactly while a fetch of it runs. -/
theorem awaiting_eq (run : Run) (key : ResourceKey) (n : Nat) :
    run.awaiting key n = ((run.listing key).running n).map (·.call) := by
  induction n with
  | zero =>
    obtain ⟨settings, hm⟩ := run.made
    have h : (run.state 0).errands = [] := (initial_of_ofSettings hm).2.2
    simp only [awaiting, errandsFor, exchangesFor, h, Schedule.inFlight]
    rfl
  | succ n ih =>
    -- a fetch brings its request with it; any other event leaves both or ends both
    by_cases fetched : ∃ call, (run.listing key).effect n = some (.fetch call)
    · obtain ⟨call, hf⟩ := fetched
      obtain ⟨grounded, aloft⟩ := Cache.Run.running_of_fetch hf
      obtain ⟨posted, same⟩ := fetch_spec hf
      rw [grounded] at ih
      obtain ⟨noErrand, noExchange⟩ := List.append_eq_nil_iff.1 ih
      rw [aloft, awaiting, posted, exchangesFor, same]
      rw [List.map_eq_nil_iff] at noErrand
      unfold exchangesFor at noExchange
      simp [noErrand, noExchange]
    · have unfetched : ∀ call, (run.listing key).effect n ≠ some (.fetch call) :=
        fun call h => fetched ⟨call, h⟩
      cases he : run.event n with
      | none =>
        have hl : (run.listing key).event n = none := by simp [listing, he]
        rcases run.step_cases n with ⟨-, hs, hf⟩ | ⟨event, he', -⟩
        · rw [Cache.Run.running_of_none hl, ← ih, awaiting, errandsFor, exchangesFor, hs,
            inFlight_of_unsent (by simp [hf]) (by simp [he]) (by simp [he])]
          rfl
        · rw [he] at he'
          cases he'
      | some event =>
        cases event with
        | start | resume | resumeChange =>
          exact awaiting_of_quiet ih he unfetched (by simp) (by simp) (by simp)
        | dispatch errand =>
          by_cases h : errand ∈ (run.state n).errands ∧ errand.purpose = .listing key
          · exact awaiting_of_dispatch ih he h.1 h.2
          · exact awaiting_of_other_dispatch ih he h
        | receive exchange reply => exact awaiting_of_receive ih he unfetched
        | drop call => exact awaiting_of_drop ih he

/-! ## Fetches and their replies -/

/-- A request for a listing that has been sent and has come to its end. -/
structure Response (run : Run) (key : ResourceKey) where
  exchange : Exchange
  reply : Option Reply
  /-- The step the request was sent at. -/
  sent : Nat
  /-- The step its reply came at, or the step after which none will come. -/
  received : Nat
  purpose : exchange.purpose = .listing key
  sends : run.effect sent = some (.send exchange)
  receives : run.event received = some (.receive exchange reply)
  sent_lt_received : sent < received

namespace Response

/-- What the reply comes to. -/
def outcome (response : run.Response key) : Outcome (List key.Item) :=
  response.exchange.outcome key response.reply

/-- The body of an accepted reply, if it is JSON. -/
def body? (response : run.Response key) : Option Json :=
  response.reply.bind fun reply => if reply.isAccepted then reply.json? else none

theorem outcome_eq_ok_iff {response : run.Response key} {items : List key.Item} :
    response.outcome = .ok items ↔
      ∃ body, response.body? = some body ∧ items = Listing.decode key body := by
  unfold outcome body? Exchange.outcome Exchange.result
  cases response.reply with
  | none => simp
  | some reply =>
    cases accepted : reply.isAccepted with
    | false => simp [accepted]
    | true =>
      cases hb : reply.json? with
      | none => simp [accepted, hb]
      | some body =>
        simp only [accepted, hb, if_true, Option.map_some, Option.bind_some, Except.ok.injEq,
          Option.some.injEq, exists_eq_left']
        exact eq_comm

/-- It was a GET of the listing with the credential of the moment it was sent at. -/
theorem request_eq (response : run.Response key) :
    ∃ url, run.initial.base.requestUrl key.path = .ok url ∧
      response.exchange.request = ⟨.get, url, (run.state response.sent).session, none⟩ := by
  obtain ⟨-, -, made⟩ := dispatch_of_send response.sends
  rw [response.purpose] at made
  obtain ⟨url, hu, hr⟩ := request_eq_ok_iff.1 made
  rw [run.base_eq] at hu
  exact ⟨url, hu, hr⟩

end Response

/-- A request for a listing is sent after the fetch it is for has begun. -/
theorem fetch_of_send {p : Nat} {exchange : Exchange} (purpose : exchange.purpose = .listing key)
    (h : run.effect p = some (.send exchange)) :
    ∃ b < p, (run.listing key).effect b = some (.fetch exchange.call) := by
  obtain ⟨-, waits, -⟩ := dispatch_of_send h
  obtain ⟨b, hb, event, he, posted⟩ := posted_of_errand waits
  refine ⟨b, hb, ?_⟩
  generalize hp : exchange.toErrand.purpose = other at posted
  cases posted with
  | @listing other fetches =>
    obtain rfl : key = other := by simpa [purpose] using hp
    rw [listing_effect run key he, fetches]
  | other starts posts => cases posts <;> simp [purpose] at hp
  | change | turn => simp [purpose] at hp

/-- When a reply comes to a request for a listing, the fetch it is for is the one that runs. -/
theorem running_of_receive {n : Nat} {exchange : Exchange} {reply : Option Reply}
    (purpose : exchange.purpose = .listing key)
    (he : run.event n = some (.receive exchange reply)) :
    ∃ flight, (run.listing key).running n = [flight] ∧ flight.call = exchange.call := by
  have tied := run.awaiting_eq key n
  obtain ⟨onlyExchange, noErrand⟩ :=
    alone_of_exchange tied (List.mem_filter.2 ⟨run.heard he, decide_eq_true purpose⟩)
  rw [awaiting, noErrand, onlyExchange] at tied
  obtain ⟨flight, hf, hc⟩ := List.map_eq_singleton_iff.1 tied.symm
  exact ⟨flight, hf, hc⟩

/-- A fetch that has ended got a response to a request that was sent after it began, or its
request could not be made. -/
theorem landing_cases {n : Nat} {landing : Cache.Landing (List key.Item)}
    (h : landing ∈ (run.listing key).landed n) :
    (∃ response : run.Response key, landing.began < response.sent ∧
      response.received = landing.ended ∧ landing.outcome = response.outcome) ∨
    (∃ failure, (run.state landing.ended).request (.listing key) = .error failure ∧
      landing.outcome = .error failure) := by
  obtain ⟨-, hr, he, -⟩ := Cache.Run.landing_spec h
  rcases finish_cases he with ⟨exchange, reply, he, purpose, ho⟩ |
    ⟨errand, failure, -, -, -, unmade, ho⟩
  · obtain ⟨flight, hf, hc⟩ := running_of_receive purpose he
    obtain rfl : landing.toFlight = flight := List.singleton_inj.1 (hr.symm.trans hf)
    obtain ⟨p, hp, sends⟩ := sent_of_inFlight (run.heard he)
    obtain ⟨b, hb, fetches⟩ := fetch_of_send purpose sends
    obtain ⟨-, began, -⟩ := Cache.Run.flight_spec_of_running hf
    obtain rfl : landing.began = b := Cache.Run.fetch_unique began (hc ▸ fetches)
    exact .inl ⟨⟨exchange, reply, p, landing.ended, purpose, sends, he, hp⟩, hb, rfl, ho⟩
  · exact .inr ⟨failure, unmade, ho⟩

/-- Every response ends a fetch that began before its request was sent. -/
theorem Response.landing (response : run.Response key) :
    ∃ landing, (run.listing key).landed (response.received + 1) =
      landing :: (run.listing key).landed response.received ∧ landing.began < response.sent ∧
      landing.ended = response.received ∧ landing.outcome = response.outcome := by
  obtain ⟨flight, hf, hc⟩ := running_of_receive response.purpose response.receives
  have hl : (run.listing key).event response.received = some (.finish response.outcome) := by
    rw [run.listing_event key response.receives]
    simp [cacheEvent?, response.purpose, Response.outcome]
  obtain ⟨b, hb, fetches⟩ := fetch_of_send response.purpose response.sends
  obtain ⟨-, began, -⟩ := Cache.Run.flight_spec_of_running hf
  obtain rfl : flight.began = b := Cache.Run.fetch_unique began (hc ▸ fetches)
  exact ⟨_, Cache.Run.landed_of_finish hf hl, hb, rfl, rfl⟩

end Client.Run

end Fleet

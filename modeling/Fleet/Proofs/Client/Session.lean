/-
Sessions. A listing that is shown after a session began came in answer to a request of that
session or a later one (`shown_after_setSession`), unless a read joins a fetch that was under way
when the session began, or the cached inventory is asked for before any request of the new session
has succeeded. Both exceptions are real (`shown_across_setSession`).
-/
import Fleet.Proofs.Cache.Invalidation
import Fleet.Proofs.Client.Answers
import Fleet.Proofs.Client.Fetching

namespace Fleet

/-! ## What operations show -/

namespace Operation

/-- What an operation gives when it shows the listing of a body. -/
def shows? : Operation → Json → Option Answer
  | machines, body | refreshMachines, body => some (.machines (Listing.machines body))
  | machineRecords, body => some (.records ((Listing.machines body).map normalize))
  | inventory, body => some (.inventory (Inventory.ofItems (Listing.machines body)))
  | cachedInventory, body =>
    some (.cachedInventory (some (Inventory.ofItems (Listing.machines body))))
  | blueprints, body | refreshBlueprints, body => some (.blueprints (Listing.blueprints body))
  | _, _ => none

theorem shows?_of_reads {operation : Operation} {key : ResourceKey}
    (h : operation.reads? = some key ∨ operation.refreshes? = some key) (body : Json) :
    operation.shows? body =
      some (operation.present (Answer.listing key (Listing.decode key body))) := by
  cases operation <;> simp at h <;> subst h <;> rfl

end Operation

namespace Client.Run

variable {run : Run} {key : ResourceKey}

/-! ## Credentials -/

theorem session_succ {n : Nat} {event : Event} (he : run.event n = some event) :
    (run.state (n + 1)).session = event.credential (run.state n).session := by
  obtain ⟨machines, blueprints, changes, changing, errands, hs⟩ := (transition he).frame
  rw [hs]

/-- After a session began the credential is the one of that session or of a later one. -/
theorem session_since {i n call : Nat} {session : Option SessionCookie}
    (hi : run.event i = some (.start call (.setSession session))) (hin : i < n) :
    ∃ m other latest, i ≤ m ∧ m < n ∧ run.event m = some (.start other (.setSession latest)) ∧
      (run.state n).session = latest := by
  induction n, hin using Nat.le_induction with
  | base => exact ⟨i, call, session, le_rfl, Nat.lt_succ_self i, hi, session_succ hi⟩
  | succ n hin ih =>
    obtain ⟨m, other, latest, him, hmn, hm, hs⟩ := ih
    rcases run.step_cases n with ⟨-, hn, -⟩ | ⟨event, he, -⟩
    · exact ⟨m, other, latest, him, by omega, hm, by rw [hn, hs]⟩
    · -- the latest session is the one that begins in this step, or the latest one so far
      by_cases replaced : ∃ call session, event = .start call (.setSession session)
      · obtain ⟨call, session, rfl⟩ := replaced
        exact ⟨n, call, session, by omega, Nat.lt_succ_self n, he, session_succ he⟩
      · refine ⟨m, other, latest, him, by omega, hm, ?_⟩
        rw [session_succ he, ← hs]
        unfold Event.credential
        split
        · exact absurd ⟨_, _, rfl⟩ replaced
        · rfl

/-- The request was sent after step `i`, with the credential of a session that began at that step
or later. -/
def Response.Since (response : run.Response key) (i : Nat) : Prop :=
  i < response.sent ∧ ∃ m call session, i ≤ m ∧ m < response.sent ∧
    run.event m = some (.start call (.setSession session)) ∧
    response.exchange.request.cookie = session

theorem Response.since {response : run.Response key} {i call : Nat}
    {session : Option SessionCookie} (hi : run.event i = some (.start call (.setSession session)))
    (h : i < response.sent) : response.Since i := by
  obtain ⟨m, other, latest, him, hm, he, hs⟩ := session_since hi h
  obtain ⟨url, -, hr⟩ := response.request_eq
  exact ⟨h, m, other, latest, him, hm, he, by rw [hr, hs]⟩

/-- No request is sent in the step a call begins in. -/
theorem Response.ne_sent {response : run.Response key} {i call : Nat} {operation : Operation}
    (hi : run.event i = some (.start call operation)) : i ≠ response.sent := by
  rintro rfl
  rw [(dispatch_of_send response.sends).1] at hi
  cases hi

/-! ## After a session began -/

/-- A fetch that gave a listing got it in a response. -/
theorem response_of_ok {n : Nat} {landing : Cache.Landing (List key.Item)}
    (hm : landing ∈ (run.listing key).landed n) {items : List key.Item}
    (ho : landing.outcome = .ok items) :
    ∃ (response : run.Response key) (body : Json), response.body? = some body ∧
      items = Listing.decode key body ∧ landing.began < response.sent ∧
      response.received = landing.ended := by
  rcases landing_cases hm with ⟨response, hb, he, hr⟩ | ⟨failure, -, hr⟩
  · obtain ⟨body, hbody, hi⟩ := Response.outcome_eq_ok_iff.1 (hr.symm.trans ho)
    exact ⟨response, body, hbody, hi, hb, he⟩
  · rw [hr] at ho
    cases ho

theorem read_after_setSession {i j k c call : Nat} {session : Option SessionCookie}
    {operation : Operation} {items : List key.Item}
    (hi : run.event i = some (.start c (.setSession session))) (hij : i < j)
    (hj : run.event j = some (.start call operation)) (reads : operation.reads? = some key)
    (hk : (run.listing key).effect k = some (.answer call (.ok items))) :
    ∃ (response : run.Response key) (body : Json), response.body? = some body ∧
      items = Listing.decode key body ∧ response.received ≤ k ∧
      (response.Since i ∨
        (run.listing key).FetchesNothing call ∧ response.sent < i ∧ j < response.received) := by
  have hl := listing_event_of_reads hj reads
  have spoiled : (run.listing key).event i = some .invalidate := by
    rw [run.listing_event key hi, Spoils.cacheEvent? (.start rfl)]
  obtain ⟨landing, hm, -, ho, source⟩ := Cache.Run.source_of_read hl hk
  obtain ⟨response, body, hbody, hitems, hb, he⟩ := response_of_ok hm ho
  have hend := (Cache.Run.landing_spec hm).1
  refine ⟨response, body, hbody, hitems, by omega, ?_⟩
  -- a hit is not older than the last invalidation, and a fetch of its own begins with the call;
  -- only a fetch that is joined may have been sent before the session began
  rcases source with ⟨hml, hg⟩ | hbegan | ⟨nothing, -, hended⟩
  · have := Cache.Run.lt_began_of_generation spoiled hij hml hg
    exact .inl (Response.since hi (by omega))
  · exact .inl (Response.since hi (by omega))
  · have apart : i ≠ response.sent := Response.ne_sent hi
    by_cases h : i < response.sent
    · exact .inl (Response.since hi h)
    · exact .inr ⟨nothing, by omega, by omega⟩

theorem refresh_after_setSession {i j k c call : Nat} {session : Option SessionCookie}
    {operation : Operation} {items : List key.Item}
    (hi : run.event i = some (.start c (.setSession session))) (hij : i < j)
    (hj : run.event j = some (.start call operation)) (refreshes : operation.refreshes? = some key)
    (hk : (run.listing key).effect k = some (.answer call (.ok items))) :
    ∃ (response : run.Response key) (body : Json), response.body? = some body ∧
      items = Listing.decode key body ∧ response.received ≤ k ∧ response.Since i := by
  have hl := listing_event_of_refreshes hj refreshes
  obtain ⟨landing, hnew, -, hended, ho, hfetch⟩ := Cache.Run.fetchesOnce_of_refresh hl hk
  have hm : landing ∈ (run.listing key).landed (k + 1) := by
    rw [hnew]
    exact List.mem_cons_self
  obtain ⟨response, body, hbody, hitems, hb, he⟩ := response_of_ok hm ho
  obtain ⟨j', hj', hbegin⟩ := Cache.Run.begins_of_fetch ((hfetch landing.began).2 rfl)
  obtain rfl : j = j' := (run.listing key).begins_unique (Cache.Run.begins_of_refresh hl) hbegin
  exact ⟨response, body, hbody, hitems, by omega, Response.since hi (by omega)⟩

/-- Once a request of the new session has succeeded, so has the one whose listing is shown. -/
theorem last_success {i n : Nat} {last : Cache.Landing (List key.Item)}
    (hf : ((run.listing key).landed n).find? Cache.Landing.succeeded = some last)
    {other : run.Response key} (succeeds : other.body?.isSome) (hi : i < other.sent)
    (hn : other.received < n) :
    last.outcome = other.outcome ∧ last.ended = other.received ∨ i < last.began := by
  obtain ⟨landing, hl, hb, he, ho⟩ := other.landing
  obtain ⟨new, happend, -⟩ := (run.listing key).landed_append (Nat.succ_le_of_lt hn)
  have hm : landing ∈ (run.listing key).landed n := by
    rw [happend, Nat.succ_eq_add_one, hl]
    exact List.mem_append_right _ List.mem_cons_self
  have succeeded : landing.succeeded = true := by
    obtain ⟨body, hbody⟩ := Option.isSome_iff_exists.1 succeeds
    unfold Cache.Landing.succeeded
    rw [ho, Response.outcome_eq_ok_iff.2 ⟨body, hbody, rfl⟩]
    rfl
  rcases Cache.Run.ended_lt_of_find? hf hm succeeded with rfl | h
  · exact .inl ⟨ho, he⟩
  · have := other.sent_lt_received
    exact .inr (by omega)

theorem peek_after_setSession {i j c : Nat} {session : Option SessionCookie}
    {inventory : Inventory} (hi : run.event i = some (.start c (.setSession session)))
    (hp : (run.state j).cachedInventory = some inventory) :
    ∃ (response : run.Response .machines) (body : Json), response.body? = some body ∧
      inventory = Inventory.ofItems (Listing.machines body) ∧ response.received < j ∧
      (response.Since i ∨ response.sent < i ∧ ∀ other : run.Response .machines,
        other.body?.isSome → i < other.sent → j ≤ other.received) := by
  obtain ⟨items, hpeek, rfl⟩ := Option.map_eq_some_iff.1 hp
  have hs : ((run.listing .machines).state j).peek = some items := by
    rw [listing_state]
    exact hpeek
  obtain ⟨landing, hm, hf, ho⟩ := Cache.Run.source_of_peek hs
  have hend := (Cache.Run.landing_spec hm).1
  obtain ⟨response, body, hbody, rfl, hb, he⟩ := response_of_ok hm ho
  by_cases renewed : ∃ other : run.Response .machines,
      other.body?.isSome ∧ i < other.sent ∧ other.received < j
  · obtain ⟨other, succeeds, hsent, hreceived⟩ := renewed
    rcases last_success hf succeeds hsent hreceived with ⟨same, -⟩ | h
    · obtain ⟨body', hbody', hitems⟩ := Response.outcome_eq_ok_iff.1 (same.symm.trans ho)
      exact ⟨other, body', hbody', by rw [hitems]; rfl, hreceived, .inl (Response.since hi hsent)⟩
    · exact ⟨response, body, hbody, rfl, by omega, .inl (Response.since hi (by omega))⟩
  · refine ⟨response, body, hbody, rfl, by omega, ?_⟩
    have apart : i ≠ response.sent := Response.ne_sent hi
    by_cases h : i < response.sent
    · exact .inl (Response.since hi h)
    · refine .inr ⟨by omega, fun other succeeds hsent => ?_⟩
      by_contra hreceived
      exact renewed ⟨other, succeeds, hsent, by omega⟩

/-- The answer shows no listing, or one from a response to a request of a session that began at
step `i` or later. -/
def ShownSince (run : Run) (key : ResourceKey) (i k : Nat) (operation : Operation)
    (answer : Answer) : Prop :=
  operation = .cachedInventory ∧ answer = .cachedInventory none ∨
  ∃ (response : run.Response key) (body : Json), response.body? = some body ∧
    response.received ≤ k ∧ operation.shows? body = some (operation.present answer) ∧
    response.Since i

/-- The answer to the call that begins in step `j` shows a listing from a response to a request
that was sent before step `i`: the call fetches nothing and takes over a fetch that still runs when
it begins, or it asks for the cached inventory before any request sent after step `i` has
succeeded. -/
def ShownOlder (run : Run) (key : ResourceKey) (i j k call : Nat) (operation : Operation)
    (answer : Answer) : Prop :=
  ∃ (response : run.Response key) (body : Json), response.body? = some body ∧
    response.received ≤ k ∧ operation.shows? body = some (operation.present answer) ∧
    response.sent < i ∧
    (operation.reads? = some key ∧ (run.listing key).FetchesNothing call ∧
        j < response.received ∨
      operation = .cachedInventory ∧ ∀ other : run.Response key,
        other.body?.isSome → i < other.sent → j ≤ other.received)

/-- A call that begins after a session began shows no listing, or one from a response to a request
of that session or a later one, with two exceptions: a read that fetches nothing may take over a
fetch that was under way when the session began and still when the call began; and as long as no
request of the session has succeeded, the cached inventory may be older. -/
theorem shown_after_setSession {i j k c call : Nat} {session : Option SessionCookie}
    {operation : Operation} {answer : Answer}
    (hi : run.event i = some (.start c (.setSession session))) (hij : i < j)
    (hj : run.event j = some (.start call operation)) (ho : operation.listing? = some key)
    (hk : run.effect k = some (.answer call (.ok answer))) :
    run.ShownSince key i k operation answer ∨ run.ShownOlder key i j k call operation answer := by
  rcases answer_of_listing hj ho hk with ⟨rfl, rfl, hr⟩ | ⟨asks, outcome, hl, hr⟩
  · cases hr
    obtain rfl : key = .machines := (Option.some.inj ho).symm
    cases hp : (run.state k).cachedInventory with
    | none => exact .inl (.inl ⟨rfl, rfl⟩)
    | some inventory =>
      obtain ⟨response, body, hbody, rfl, hn, since | ⟨hsent, unrenewed⟩⟩ :=
        peek_after_setSession hi hp
      · exact .inl (.inr ⟨response, body, hbody, hn.le, rfl, since⟩)
      · exact .inr ⟨response, body, hbody, hn.le, rfl, hsent, .inr ⟨rfl, unrenewed⟩⟩
  · cases outcome with
    | error failure => cases hr
    | ok items =>
      cases hr
      rcases asks with reads | refreshes
      · have hshow := Operation.shows?_of_reads (.inl reads)
        obtain ⟨response, body, hbody, rfl, hn, since | ⟨nothing, hsent, hlt⟩⟩ :=
          read_after_setSession hi hij hj reads hl
        · exact .inl (.inr ⟨response, body, hbody, hn, hshow body, since⟩)
        · exact .inr ⟨response, body, hbody, hn, hshow body, hsent, .inl ⟨reads, nothing, hlt⟩⟩
      · obtain ⟨response, body, hbody, rfl, hn, since⟩ :=
          refresh_after_setSession hi hij hj refreshes hl
        exact .inl (.inr
          ⟨response, body, hbody, hn, Operation.shows?_of_reads (.inr refreshes) body, since⟩)

/-! ## A session that begins while a request is under way -/

def handoverSettings : Settings := { origin := some "http://h", sessionCookie := some "user=1" }

/-- The session of the settings. -/
def handoverFirst : SessionCookie := ⟨"user=1", by decide +kernel, by decide +kernel⟩

/-- The session that begins later. -/
def handoverSecond : SessionCookie := ⟨"user=2", by decide +kernel, by decide +kernel⟩

/-- The request for the machines in the first session. -/
def handoverRequest : Request where
  method := .get
  url := { scheme := "http", host := some (.domain "h"), path := .segments ["api", "v1", "machines"] }
  cookie := some handoverFirst
  body := none

def handoverEvents : List Event := [
  .start 0 .machines, .dispatch ⟨0, .listing .machines⟩,
  .start 1 (.setSession (some handoverSecond)), .start 2 .machines,
  .receive ⟨⟨0, .listing .machines⟩, handoverRequest⟩ (some ⟨200, some "[]"⟩),
  .resume .machines, .start 3 .cachedInventory]

/-- A session begins while the machines are fetched for another one; then they are asked for. -/
def handover : Run :=
  ofEvents handoverSettings (by decide +kernel) handoverEvents (by decide) (by decide +kernel)

theorem handover_listing_answer :
    (handover.listing .machines).effect 5 = some (.answer 2 (.ok [])) ∧
      ((handover.listing .machines).state 6).peek = some [] := by
  have h0 : (handover.listing .machines).event 0 = some (.read 0) := rfl
  have h1 : (handover.listing .machines).event 1 = none :=
    Option.isNone_iff_eq_none.1 (by decide +kernel)
  have h2 : (handover.listing .machines).event 2 = some .invalidate := rfl
  have h3 : (handover.listing .machines).event 3 = some (.read 2) := rfl
  have h4 : (handover.listing .machines).event 4 = some (.finish (.ok [])) := by
    rw [← Exchange.outcome_of_bare ⟨⟨0, .listing .machines⟩, handoverRequest⟩]
    rfl
  have h5 : (handover.listing .machines).event 5 = some .resume := rfl
  simp only [Cache.Run.effect, Cache.Run.state, h0, h1, h2, h3, h4, h5]
  exact ⟨rfl, rfl⟩

theorem handover_effects : handover.effect 5 = some (.answer 2 (.ok (.machines []))) ∧
    handover.effect 6 = some (.answer 3 (.ok (.cachedInventory (some (Inventory.ofItems []))))) := by
  obtain ⟨hl, hp⟩ := handover_listing_answer
  have h6 : handover.event 6 = some (.start 3 .cachedInventory) := rfl
  constructor
  · exact effect_of_listing hl
  · rw [listing_state] at hp
    rw [effect_eq h6]
    change some (Effect.answer 3 (.ok (.cachedInventory
      (((handover.state 6).cache .machines).peek.map Inventory.ofItems)))) = _
    rw [hp]
    rfl

theorem handover_shown :
    handover.event 2 = some (.start 1 (.setSession (some handoverSecond))) ∧ 2 < 6 ∧
    handover.event 6 = some (.start 3 .cachedInventory) ∧
    Operation.cachedInventory.listing? = some .machines ∧
    handover.effect 6 =
      some (.answer 3 (.ok (.cachedInventory (some (Inventory.ofItems []))))) ∧
    (handover.ShownSince .machines 2 6 .cachedInventory
        (.cachedInventory (some (Inventory.ofItems []))) ∨
      handover.ShownOlder .machines 2 6 6 3 .cachedInventory
        (.cachedInventory (some (Inventory.ofItems [])))) :=
  ⟨rfl, by decide, rfl, rfl, handover_effects.2,
    shown_after_setSession (i := 2) rfl (by decide) rfl rfl handover_effects.2⟩

/-- In this run a read and the cached inventory show what was fetched for the session before. -/
theorem shown_across_setSession :
    handover.event 2 = some (.start 1 (.setSession (some handoverSecond))) ∧
    (handover.event 3 = some (.start 2 .machines) ∧
      handover.effect 5 = some (.answer 2 (.ok (.machines []))) ∧
      ¬ handover.ShownSince .machines 2 5 .machines (.machines [])) ∧
    (handover.event 6 = some (.start 3 .cachedInventory) ∧
      handover.effect 6 =
        some (.answer 3 (.ok (.cachedInventory (some (Inventory.ofItems []))))) ∧
      ¬ handover.ShownSince .machines 2 6 .cachedInventory
        (.cachedInventory (some (Inventory.ofItems [])))) := by
  have unsent : ∀ response : handover.Response .machines, ¬ response.Since 2 := by
    rintro response ⟨hlt, -⟩
    obtain ⟨hd, -⟩ := dispatch_of_send response.sends
    -- from step 3 on no request is let through
    obtain ⟨m, hm⟩ : ∃ m, response.sent = 3 + m := ⟨response.sent - 3, by omega⟩
    have hd : (handoverEvents.drop 3)[m]? = some (.dispatch response.exchange.toErrand) := by
      rw [List.getElem?_drop, ← hm]
      exact hd
    simpa [handoverEvents] using List.mem_of_getElem? hd
  refine ⟨rfl, ⟨rfl, handover_effects.1, ?_⟩, rfl, handover_effects.2, ?_⟩
  · rintro (⟨h, -⟩ | ⟨response, -, -, -, -, since⟩)
    · cases h
    · exact unsent response since
  · rintro (⟨-, h⟩ | ⟨response, -, -, -, -, since⟩)
    · cases h
    · exact unsent response since

end Client.Run

end Fleet

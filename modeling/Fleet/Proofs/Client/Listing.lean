/-
What a step of a client is for one of its listings: at most one event of the cache of that listing
(`cacheEvent?`), and apart from that event the cache does not change (`Transition.cache`). What the
cache answers, the client answers, and what the cache fetches becomes a request to be made.
-/
import Fleet.Proofs.Client.Step

namespace Fleet.Client

/-! ## The caches in a step -/

/-- What an event of the client is for the cache of a listing. -/
def cacheEvent? (client : Client) (key : ResourceKey) :
    Event → Option (Cache.Event (List key.Item))
  | .start call operation =>
    if operation.reads? = some key then some (.read call)
    else if operation.refreshes? = some key then some (.refresh call)
    else if operation.spoils key then some .invalidate
    else none
  | .dispatch errand =>
    if errand ∈ client.errands ∧ errand.purpose = .listing key then
      match client.request (.listing key) with
      | .ok _ => none
      | .error failure => some (.finish (.error failure))
    else none
  | .receive exchange reply =>
    match exchange.purpose with
    | .listing other => if other = key then some (.finish (exchange.outcome key reply)) else none
    | .change change =>
      if key = .blueprints ∧ (exchange.result change.decode? reply).isOk then some .invalidate
      else none
    | _ => none
  | .resume other => if other = key then some .resume else none
  | .resumeChange => none
  | .drop call => some (.drop call)

/-- The cache of a listing after an event of the client. -/
def cacheAfter (client : Client) (key : ResourceKey) (now : Nat) (event : Event) :
    Cache (List key.Item) :=
  match client.cacheEvent? key event with
  | some cacheEvent => ((client.cache key).step now cacheEvent).1
  | none => client.cache key

/-- What an event of the client leads to at the cache of a listing. -/
def cacheEffect? (client : Client) (key : ResourceKey) (now : Nat) (event : Event) :
    Option (Cache.Effect (List key.Item)) :=
  (client.cacheEvent? key event).bind fun cacheEvent => ((client.cache key).step now cacheEvent).2

theorem Touches.cacheEvent? {client left : Client} {event : Event} {key : ResourceKey}
    {cacheEvent : Cache.Event (List key.Item)} (touches : Touches client event key cacheEvent left) :
    client.cacheEvent? key event = some cacheEvent := by
  cases touches with
  | read reads => exact if_pos reads
  | @refresh call operation key refreshes =>
    have unread : operation.reads? ≠ some key := by
      cases operation <;> simp at refreshes ⊢
    exact (if_neg unread).trans (if_pos refreshes)
  | resume => simp [Client.cacheEvent?]
  | reply purpose => simp [Client.cacheEvent?, purpose]
  | abort waits purpose unmade => simp [Client.cacheEvent?, waits, purpose, unmade]

theorem Touches.cacheEvent?_of_ne {client left : Client} {event : Event} {key other : ResourceKey}
    {cacheEvent : Cache.Event (List key.Item)} (touches : Touches client event key cacheEvent left)
    (h : key ≠ other) : client.cacheEvent? other event = none := by
  cases touches with
  | @read call operation key reads =>
    cases operation <;>
      simp at reads <;> subst reads <;>
      simp [Client.cacheEvent?, h]
  | @refresh call operation key refreshes =>
    cases operation <;>
      simp at refreshes <;> subst refreshes <;>
      simp [Client.cacheEvent?, h]
  | resume => simp [Client.cacheEvent?, h]
  | reply purpose => simp [Client.cacheEvent?, purpose, h]
  | abort waits purpose unmade => simp [Client.cacheEvent?, purpose, h]

theorem Touches.cache_left {client left : Client} {event : Event} {key : ResourceKey}
    {cacheEvent : Cache.Event (List key.Item)} (touches : Touches client event key cacheEvent left)
    (other : ResourceKey) : left.cache other = client.cache other := by
  cases touches <;> exact cache_congr other rfl rfl

theorem Touches.step {client left : Client} {event : Event} {key : ResourceKey}
    {cacheEvent : Cache.Event (List key.Item)} (touches : Touches client event key cacheEvent left)
    (now : Nat) : client.step now event = left.listing key now cacheEvent := by
  cases touches with
  | @read call operation key reads => cases operation <;> simp at reads <;> subst reads <;> rfl
  | @refresh call operation key refreshes =>
    cases operation <;> simp at refreshes <;> subst refreshes <;> rfl
  | resume => rfl
  | reply purpose => simp [Client.step, receive, purpose]
  | abort waits purpose unmade => simp [Client.step, dispatch, Client.abort, waits, purpose, unmade]

/-- An event of the client makes a listing stale: the call that begins asks for that, or the
backend has accepted a change to blueprints. -/
inductive Spoils (key : ResourceKey) : Event → Prop where
  | start {call : Nat} {operation : Operation} (spoils : operation.spoils key = true) :
    Spoils key (.start call operation)
  | change {exchange : Exchange} {reply : Option Reply} {change : Change}
      (blueprints : key = .blueprints) (purpose : exchange.purpose = .change change)
      (accepted : (exchange.result change.decode? reply).isOk = true) :
    Spoils key (.receive exchange reply)

section Events

variable {client : Client} {key : ResourceKey} {cacheEvent : Cache.Event (List key.Item)}

theorem cacheEvent?_of_start {call : Nat} {operation : Operation}
    (h : client.cacheEvent? key (.start call operation) = some cacheEvent) :
    (operation.reads? = some key ∧ cacheEvent = .read call) ∨
    (operation.refreshes? = some key ∧ cacheEvent = .refresh call) ∨
    (operation.spoils key = true ∧ cacheEvent = .invalidate) := by
  simp only [cacheEvent?] at h
  split at h
  · rename_i reads
    cases h
    exact .inl ⟨reads, rfl⟩
  · split at h
    · rename_i refreshes
      cases h
      exact .inr (.inl ⟨refreshes, rfl⟩)
    · split at h
      · rename_i spoils
        cases h
        exact .inr (.inr ⟨spoils, rfl⟩)
      · cases h

theorem cacheEvent?_of_dispatch {errand : Errand}
    (h : client.cacheEvent? key (.dispatch errand) = some cacheEvent) :
    ∃ failure, errand ∈ client.errands ∧ errand.purpose = .listing key ∧
      client.request (.listing key) = .error failure ∧ cacheEvent = .finish (.error failure) := by
  simp only [cacheEvent?] at h
  split at h
  · rename_i waits
    split at h
    · cases h
    · rename_i failure unmade
      cases h
      exact ⟨failure, waits.1, waits.2, unmade, rfl⟩
  · cases h

theorem cacheEvent?_of_receive {exchange : Exchange} {reply : Option Reply}
    (h : client.cacheEvent? key (.receive exchange reply) = some cacheEvent) :
    (exchange.purpose = .listing key ∧ cacheEvent = .finish (exchange.outcome key reply)) ∨
    (Spoils key (.receive exchange reply) ∧ cacheEvent = .invalidate) := by
  simp only [cacheEvent?] at h
  split at h
  · rename_i other purpose
    split at h
    · rename_i same
      subst same
      cases h
      exact .inl ⟨purpose, rfl⟩
    · cases h
  · rename_i change purpose
    split at h
    · rename_i accepted
      cases h
      exact .inr ⟨.change accepted.1 purpose accepted.2, rfl⟩
    · cases h
  · cases h

/-- An event of the cache of a listing belongs to a call or a request for it, or makes it stale, or
a call is dropped. -/
theorem cacheEvent?_cases {event : Event} (h : client.cacheEvent? key event = some cacheEvent) :
    (∃ left, Touches client event key cacheEvent left) ∨
    (Spoils key event ∧ cacheEvent = .invalidate) ∨
    (∃ call, event = .drop call ∧ cacheEvent = .drop call) := by
  cases event with
  | start call operation =>
    rcases cacheEvent?_of_start h with ⟨reads, rfl⟩ | ⟨refreshes, rfl⟩ | ⟨spoils, rfl⟩
    · exact .inl ⟨client, .read reads⟩
    · exact .inl ⟨client, .refresh refreshes⟩
    · exact .inr (.inl ⟨.start spoils, rfl⟩)
  | dispatch errand =>
    obtain ⟨failure, waits, purpose, unmade, rfl⟩ := cacheEvent?_of_dispatch h
    exact .inl ⟨client.unpost errand, .abort waits purpose unmade⟩
  | receive exchange reply =>
    rcases cacheEvent?_of_receive h with ⟨purpose, rfl⟩ | spoils
    · exact .inl ⟨client, .reply purpose⟩
    · exact .inr (.inl spoils)
  | resume other =>
    simp only [cacheEvent?] at h
    split at h
    · rename_i same
      subst same
      cases h
      exact .inl ⟨client, .resume⟩
    · cases h
  | resumeChange => cases h
  | drop call =>
    cases h
    exact .inr (.inr ⟨call, rfl, rfl⟩)

end Events

/-- Whatever spoils a listing is an invalidation of its cache. -/
theorem Spoils.cacheEvent? {client : Client} {key : ResourceKey} {event : Event}
    (spoils : Spoils key event) : client.cacheEvent? key event = some .invalidate := by
  cases spoils with
  | @start call operation spoils =>
    cases operation with
    | setSession => rfl
    | invalidate => simpa [Client.cacheEvent?] using spoils
    | _ => cases spoils
  | change blueprints purpose accepted => simp [Client.cacheEvent?, purpose, blueprints, accepted]

/-- Only events of its own lead to anything at the cache of a listing. -/
theorem touches_of_cacheEffect? {client : Client} {key : ResourceKey} {now : Nat} {event : Event}
    {effect : Cache.Effect (List key.Item)} (h : client.cacheEffect? key now event = some effect) :
    ∃ cacheEvent left, Touches client event key cacheEvent left ∧
      ((client.cache key).step now cacheEvent).2 = some effect := by
  obtain ⟨cacheEvent, he, hf⟩ := Option.bind_eq_some_iff.1 h
  rcases cacheEvent?_cases he with ⟨left, touches⟩ | ⟨-, rfl⟩ | ⟨call, -, rfl⟩
  · exact ⟨cacheEvent, left, touches, hf⟩
  · cases hf
  · cases hf

/-- What a cache answers, the client answers. -/
theorem effect_of_answer {client : Client} {key : ResourceKey} {now call : Nat} {event : Event}
    {outcome : Outcome (List key.Item)}
    (h : client.cacheEffect? key now event = some (.answer call outcome)) :
    (client.step now event).2 = some (.answer call (outcome.map (Answer.listing key))) := by
  obtain ⟨cacheEvent, left, touches, hf⟩ := touches_of_cacheEffect? h
  rw [touches.step, listing, touches.cache_left]
  simp only [hf]

/-- What a cache fetches becomes a request to be made. -/
theorem errands_of_fetch {client : Client} {key : ResourceKey} {now call : Nat} {event : Event}
    (h : client.cacheEffect? key now event = some (.fetch call)) :
    (client.step now event).1.errands = client.errands ++ [⟨call, .listing key⟩] := by
  obtain ⟨cacheEvent, left, touches, hf⟩ := touches_of_cacheEffect? h
  rw [touches.step, errands_listing_of_fetch left key (by rw [touches.cache_left, hf])]
  cases touches with
  | abort => exact absurd hf (Cache.finish_ne_fetch _ _ _ _)
  | read | refresh | resume | reply => rfl

/-- What the client answers when a listing is concerned, the cache of that listing answers. -/
theorem Touches.cacheEffect?_of_answer {client left : Client} {event : Event} {key : ResourceKey}
    {cacheEvent : Cache.Event (List key.Item)} {now call : Nat} {result : Except Failure Answer}
    (touches : Touches client event key cacheEvent left)
    (h : (left.listing key now cacheEvent).2 = some (.answer call result)) :
    ∃ outcome, client.cacheEffect? key now event = some (.answer call outcome) ∧
      result = outcome.map (Answer.listing key) := by
  unfold Client.listing at h
  simp only [touches.cache_left] at h
  unfold cacheEffect?
  rw [touches.cacheEvent?, Option.bind_some]
  split at h
  · cases h
  · rename_i other outcome he
    cases h
    exact ⟨outcome, he, rfl⟩
  · cases h

section Step

variable {client next : Client} {now : Nat} {event : Event} {effect : Option Effect}

/-- Apart from its event the cache of a listing does not change. -/
theorem Transition.cache (t : Transition client now event next effect) (key : ResourceKey) :
    next.cache key = client.cacheAfter key now event := by
  unfold cacheAfter
  cases t with
  | @listing _ other cacheEvent left touches =>
    by_cases h : other = key
    · subst h
      rw [touches.cacheEvent?, cache_listing, touches.cache_left]
    · rw [touches.cacheEvent?_of_ne h, cache_listing_of_ne _ _ (Ne.symm h), touches.cache_left]
  | @invalidate call other =>
    by_cases h : other = key
    · subst h
      simp [cacheEvent?, Cache.step]
    · simp [cacheEvent?, h,
        cache_invalidate_of_ne _ _ (Ne.symm h)]
  | setSession =>
    simp [cacheEvent?, Cache.step]
  | peek => simp [cacheEvent?]
  | refuse refused =>
    cases refused <;>
      simp [cacheEvent?]
  | post posts =>
    cases posts <;>
      simp [cacheEvent?]
  | claim => simp [cacheEvent?]
  | proceed => simp [cacheEvent?]
  | send waits made =>
    rename_i errand request
    have unfailed : cacheEvent? client key (.dispatch errand) = none := by
      by_cases h : errand.purpose = .listing key
      · rw [h] at made
        simp [cacheEvent?, made]
      · simp [cacheEvent?, h]
    rw [unfailed]
    exact cache_congr key rfl rfl
  | abort waits unlisted unmade => simp [cacheEvent?, unlisted key, cache_abort _ _ _ unlisted]
  | idle gone => simp [cacheEvent?, gone]
  | reply answers => cases answers <;> simp [cacheEvent?, *]
  | @change exchange reply change purpose =>
    by_cases accepted : (exchange.result change.decode? reply).isOk
    · cases key <;> simp [cacheEvent?, purpose, accepted, receiveChange_of_isOk accepted,
        cache_invalidate_of_ne, Cache.step]
    · simp [cacheEvent?, purpose, accepted, receiveChange_of_not_isOk accepted]
  | drop => simp [cacheEvent?, Cache.step]

/-- An answer comes from a cache, or the call that begins is answered at once, or a request that
is for no listing has come to its end. -/
theorem Transition.answer_cases {call : Nat} {result : Except Failure Answer}
    (t : Transition client now event next (some (.answer call result))) :
    (∃ key outcome, client.cacheEffect? key now event = some (.answer call outcome) ∧
      result = outcome.map (Answer.listing key)) ∨
    (∃ operation, event = .start call operation ∧ operation.reads? = none ∧
      operation.refreshes? = none) ∨
    (∃ errand ∈ client.errands, event = .dispatch errand ∧ errand.call = call ∧
      ∀ key, errand.purpose ≠ .listing key) ∨
    (∃ exchange reply, event = .receive exchange reply ∧ exchange.call = call ∧
      ∀ key, exchange.purpose ≠ .listing key) := by
  generalize hf : some (Effect.answer call result) = effect at t
  cases t with
  | listing touches => exact .inl ⟨_, touches.cacheEffect?_of_answer hf.symm⟩
  | invalidate | setSession | peek =>
    cases hf
    exact .inr (.inl ⟨_, rfl, rfl, rfl⟩)
  | refuse refused =>
    cases hf
    cases refused <;> exact .inr (.inl ⟨_, rfl, rfl, rfl⟩)
  | abort waits unlisted unmade =>
    cases hf
    exact .inr (.inr (.inl ⟨_, waits, rfl, rfl, unlisted⟩))
  | reply answers =>
    cases hf
    exact .inr (.inr (.inr ⟨_, _, rfl, rfl, by cases answers <;> simp [*]⟩))
  | change purpose =>
    cases hf
    exact .inr (.inr (.inr ⟨_, _, rfl, rfl, by simp [purpose]⟩))
  | post | claim | proceed | send | idle | drop => cases hf

end Step

/-! ## Requests to be made -/

/-- A request becomes one to be made: a cache fetches, a call begins that asks for something that
is not cached, or it is the turn of a change. -/
inductive Posted (client : Client) (now : Nat) (event : Event) (call : Nat) : Purpose → Prop where
  | listing {key : ResourceKey} (fetches : client.cacheEffect? key now event = some (.fetch call)) :
    Posted client now event call (.listing key)
  | other {operation : Operation} {purpose : Purpose} (starts : event = .start call operation)
      (posts : operation.Posts purpose) : Posted client now event call purpose
  | change {request : ChangeRequest} {change : Change}
      (starts : event = .start call (.change request)) (checked : request.check = .ok change) :
    Posted client now event call (.change change)
  | turn {change : Change} (holds : client.changes.holder = some ⟨call, change⟩) :
    Posted client now event call (.change change)

/-- An event of the cache of a listing adds the request of its fetch to those to be made, and takes
away the one that could not be made. -/
theorem Touches.errands_cases {client left : Client} {event : Event} {key : ResourceKey}
    {cacheEvent : Cache.Event (List key.Item)} (touches : Touches client event key cacheEvent left)
    (now : Nat) :
    (left.listing key now cacheEvent).1.errands = client.errands ∨
    (∃ call, client.cacheEffect? key now event = some (.fetch call) ∧
      (left.listing key now cacheEvent).1.errands = client.errands ++ [⟨call, .listing key⟩]) ∨
    (∃ errand ∈ client.errands, event = .dispatch errand ∧
      (left.listing key now cacheEvent).1.errands = client.errands.filter (· ≠ errand)) := by
  by_cases hf : ∃ call, client.cacheEffect? key now event = some (.fetch call)
  · obtain ⟨call, hf⟩ := hf
    refine .inr (.inl ⟨call, hf, ?_⟩)
    rw [← touches.step, errands_of_fetch hf]
  · have same : (left.listing key now cacheEvent).1.errands = left.errands := by
      refine errands_listing left key fun call h => hf ⟨call, ?_⟩
      rw [cacheEffect?, touches.cacheEvent?, Option.bind_some, ← touches.cache_left, h]
    rw [same]
    cases touches with
    | abort waits => exact .inr (.inr ⟨_, waits, rfl, rfl⟩)
    | read | refresh | resume | reply => exact .inl rfl

/-- A step leaves the requests to be made as they are, or one is added, or one is let through, or
those of a dropped call are given up. -/
theorem Transition.errands_cases {client next : Client} {now : Nat} {event : Event}
    {effect : Option Effect} (t : Transition client now event next effect) :
    next.errands = client.errands ∨
    (∃ call purpose, Posted client now event call purpose ∧
      next.errands = client.errands ++ [⟨call, purpose⟩]) ∨
    (∃ errand ∈ client.errands, event = .dispatch errand ∧
      next.errands = client.errands.filter (· ≠ errand)) ∨
    (∃ call, event = .drop call ∧ next.errands = client.errands.filter (·.call != call)) := by
  cases t with
  | listing touches =>
    rcases touches.errands_cases now with h | ⟨call, fetches, h⟩ | letThrough
    · exact .inl h
    · exact .inr (.inl ⟨call, _, .listing fetches, h⟩)
    · exact .inr (.inr (.inl letThrough))
  | @invalidate call key =>
    obtain ⟨machines, blueprints, h⟩ := client.withCache_frame key (client.cache key).invalidate
    exact .inl (by rw [Client.invalidate, h])
  | refuse | peek | setSession | idle | reply => exact .inl rfl
  | post posts => exact .inr (.inl ⟨_, _, .other rfl posts, rfl⟩)
  | claim checked =>
    unfold enterChange
    split
    · exact .inr (.inl ⟨_, _, .change rfl checked, rfl⟩)
    · exact .inl rfl
  | proceed =>
    unfold resumeChange
    split
    · rename_i pending holds _
      exact .inr (.inl ⟨_, _, .turn holds, rfl⟩)
    · exact .inl rfl
  | send waits made => exact .inr (.inr (.inl ⟨_, waits, rfl, rfl⟩))
  | @abort errand failure waits unlisted unmade =>
    refine .inr (.inr (.inl ⟨_, waits, rfl, ?_⟩))
    unfold Client.abort
    cases h : errand.purpose with
    | listing key => exact absurd h (unlisted key)
    | blueprint | value | change => rfl
  | change purpose =>
    unfold receiveChange
    split <;> exact .inl rfl
  | drop => exact .inr (.inr (.inr ⟨_, rfl, rfl⟩))

/-- A request that is let through is no longer to be made, whether it can be made or not. -/
theorem errands_dispatch (client : Client) (now : Nat) (errand : Errand) :
    (client.dispatch now errand).1.errands = client.errands.filter (· ≠ errand) := by
  unfold dispatch
  by_cases waits : errand ∈ client.errands
  · rw [if_pos waits]
    split
    · rfl
    · unfold abort
      split
      · rename_i key _
        exact errands_listing _ key (Cache.finish_ne_fetch _ _ · _)
      · rfl
      · rfl
      · rfl
  · rw [if_neg waits]
    refine (List.filter_eq_self.2 fun other ho => ?_).symm
    simp only [ne_eq, decide_not, Bool.not_eq_eq_eq_not, Bool.not_true, decide_eq_false_iff_not]
    rintro rfl
    exact waits ho

end Fleet.Client

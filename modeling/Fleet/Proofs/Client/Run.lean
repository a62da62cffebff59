/-
Runs of a client: for every step a time and what happens, if anything does. A call begins at most
once, and replies come for requests under way; apart from that anything may happen in any order.
Each listing of the client makes a run of its cache (`listing`), so all that holds of the runs of
a cache holds of it.
-/
import Fleet.Proofs.Cache.Caller
import Fleet.Proofs.Client.Listing

namespace Fleet.Client

/-! ## Runs -/

/-- The call an event begins. -/
def Event.begins? : Event → Option Nat
  | .start call _ => some call
  | _ => none

/-- What happens to a client at each step, and when. -/
structure Schedule where
  initial : Client
  clock : Nat → Nat
  event : Nat → Option Event

namespace Schedule

/-- The client before a step. -/
def state (schedule : Schedule) : Nat → Client
  | 0 => schedule.initial
  | n + 1 =>
    match schedule.event n with
    | some event => ((schedule.state n).step (schedule.clock n) event).1
    | none => schedule.state n

/-- What a step leads to. -/
def effect (schedule : Schedule) (n : Nat) : Option Effect :=
  (schedule.event n).bind fun event => ((schedule.state n).step (schedule.clock n) event).2

/-- The requests under way before a step: those that have been sent, without those whose replies
have come and those of dropped calls. -/
def inFlight (schedule : Schedule) : Nat → List Exchange
  | 0 => []
  | n + 1 =>
    let left :=
      match schedule.event n with
      | some (.receive exchange _) => (schedule.inFlight n).filter (· ≠ exchange)
      | some (.drop call) => (schedule.inFlight n).filter (·.call != call)
      | _ => schedule.inFlight n
    match schedule.effect n with
    | some (.send exchange) => exchange :: left
    | _ => left

end Schedule

/-- A run of a client. -/
structure Run extends Schedule where
  made : ∃ settings, ofSettings settings = .ok initial
  clock_mono : Monotone clock
  /-- No call begins twice. -/
  once : ∀ {i j call : Nat}, (event i).bind Event.begins? = some call →
    (event j).bind Event.begins? = some call → i = j
  /-- Replies come for requests under way. -/
  heard : ∀ {n : Nat} {exchange : Exchange} {reply : Option Reply},
    event n = some (.receive exchange reply) → exchange ∈ toSchedule.inFlight n

namespace Run

/-- The client for some settings that make one. -/
def clientOf (settings : Settings) (valid : (ofSettings settings).isOk) : Client :=
  (ofSettings settings).toOption.get (by
    cases h : ofSettings settings with
    | ok client => rfl
    | error reason =>
      rw [h] at valid
      cases valid)

/-- Whether a reply comes for one of the requests under way, if the event is a reply. -/
def Event.isHeard (inFlight : List Exchange) : Event → Bool
  | .receive exchange _ => exchange ∈ inFlight
  | _ => true

/-- The run of some events, one every millisecond, and nothing after them. -/
def ofEvents (settings : Settings) (valid : (ofSettings settings).isOk) (events : List Event)
    (distinct : events.Pairwise fun a b => a.begins? = none ∨ a.begins? ≠ b.begins?)
    (heard : ∀ n < events.length, events[n]?.all (Event.isHeard
      (Schedule.inFlight ⟨clientOf settings valid, id, (events[·]?)⟩ n))) : Run where
  initial := clientOf settings valid
  clock := id
  event n := events[n]?
  made := by
    refine ⟨settings, ?_⟩
    cases h : ofSettings settings with
    | ok client => simp [clientOf, h, Except.toOption]
    | error reason =>
      rw [h] at valid
      cases valid
  clock_mono := monotone_id
  once := Cache.Run.eq_of_begins distinct
  heard := by
    intro n exchange reply he
    have he : events[n]? = some (.receive exchange reply) := he
    have h := heard n (List.getElem?_eq_some_iff.1 he).1
    rw [he] at h
    simpa [Event.isHeard] using h

/-! ## Runs of a plain client -/

/-- Settings that name an origin and nothing else. -/
def plainSettings : Settings := { origin := some "http://h" }

theorem isOk_plainSettings : (ofSettings plainSettings).isOk := by decide +kernel

/-- A request of a client with these settings, to a path below its base. -/
def plainExchange (call : Nat) (purpose : Purpose) (path : List String) : Exchange where
  call
  purpose
  request := {
    method := purpose.method
    url := { scheme := "http", host := some (.domain "h"), path := .segments ("api" :: "v1" :: path) }
    cookie := none
    body := purpose.body }

/-- An id with nothing special about it. -/
def plainId : ResourceId := ⟨"b1", by decide, by decide⟩

/-! ## Steps -/

variable {run : Run}

theorem state_succ {n : Nat} {event : Event} (he : run.event n = some event) :
    run.state (n + 1) = ((run.state n).step (run.clock n) event).1 := by
  simp [Schedule.state, he]

theorem effect_eq {n : Nat} {event : Event} (he : run.event n = some event) :
    run.effect n = ((run.state n).step (run.clock n) event).2 := by
  simp [Schedule.effect, he]

theorem transition {n : Nat} {event : Event} (he : run.event n = some event) :
    Transition (run.state n) (run.clock n) event (run.state (n + 1)) (run.effect n) := by
  rw [state_succ he, effect_eq he]
  exact step_transition _ _ _

/-- At a step nothing happens, or the client makes one of its transitions. -/
theorem step_cases (run : Run) (n : Nat) :
    (run.event n = none ∧ run.state (n + 1) = run.state n ∧ run.effect n = none) ∨
    ∃ event, run.event n = some event ∧
      Transition (run.state n) (run.clock n) event (run.state (n + 1)) (run.effect n) := by
  cases he : run.event n with
  | none => exact .inl ⟨rfl, by simp [Schedule.state, he], by simp [Schedule.effect, he]⟩
  | some event => exact .inr ⟨event, rfl, transition he⟩

theorem event_of_effect {n : Nat} {effect : Effect} (h : run.effect n = some effect) :
    ∃ event, run.event n = some event ∧
      Transition (run.state n) (run.clock n) event (run.state (n + 1)) (some effect) := by
  rcases run.step_cases n with ⟨-, -, hn⟩ | ⟨event, he, t⟩
  · rw [hn] at h
    cases h
  · exact ⟨event, he, h ▸ t⟩

theorem start_unique {i j call : Nat} {a b : Operation}
    (hi : run.event i = some (.start call a)) (hj : run.event j = some (.start call b)) :
    i = j ∧ a = b := by
  have h : i = j := run.once (by rw [hi]; rfl) (by rw [hj]; rfl)
  subst h
  rw [hi] at hj
  cases hj
  exact ⟨rfl, rfl⟩

end Run

/-! ## Listings -/

/-- A call at the cache of a listing is a call that reads or refreshes it. -/
theorem start_of_cacheEvent? {client : Client} {key : ResourceKey} {event : Event}
    {cacheEvent : Cache.Event (List key.Item)} {call : Nat}
    (h : client.cacheEvent? key event = some cacheEvent) (hb : cacheEvent.begins? = some call) :
    ∃ operation, event = .start call operation ∧
      (operation.reads? = some key ∨ operation.refreshes? = some key) := by
  rcases cacheEvent?_cases h with ⟨left, touches⟩ | ⟨-, rfl⟩ | ⟨other, -, rfl⟩
  · cases touches with
    | read reads =>
      cases hb
      exact ⟨_, rfl, .inl reads⟩
    | refresh refreshes =>
      cases hb
      exact ⟨_, rfl, .inr refreshes⟩
    | resume | reply | abort => cases hb
  · cases hb
  · cases hb

theorem initial_of_ofSettings {settings : Settings} {client : Client}
    (h : ofSettings settings = .ok client) :
    (∀ key, client.cache key = { staleTime := (client.cache key).staleTime }) ∧
      client.changes = {} ∧ client.errands = [] := by
  unfold ofSettings at h
  simp only [bind, Except.bind, pure, Except.pure] at h
  repeat' split at h
  all_goals cases h
  exact ⟨fun key => by cases key <;> rfl, rfl, rfl⟩

namespace Run

variable (run : Run) (key : ResourceKey)

/-- The run of the cache of a listing. -/
def listing : Cache.Run (List key.Item) where
  staleTime := (run.initial.cache key).staleTime
  clock := run.clock
  event n := (run.event n).bind ((run.state n).cacheEvent? key)
  clock_mono := run.clock_mono
  once := by
    have begins : ∀ {i call : Nat},
        ((run.event i).bind ((run.state i).cacheEvent? key)).bind Cache.Event.begins? =
          some call → (run.event i).bind Event.begins? = some call := by
      intro i call h
      obtain ⟨cacheEvent, he, hb⟩ := Option.bind_eq_some_iff.1 h
      obtain ⟨event, hi, hc⟩ := Option.bind_eq_some_iff.1 he
      obtain ⟨operation, rfl, -⟩ := start_of_cacheEvent? hc hb
      rw [hi]
      rfl
    intro i j call hi hj
    exact run.once (begins hi) (begins hj)

variable {key} in
theorem start_of_begins {n call : Nat} (h : (run.listing key).Begins n call) :
    ∃ operation, run.event n = some (.start call operation) ∧
      (operation.reads? = some key ∨ operation.refreshes? = some key) := by
  obtain ⟨cacheEvent, he, hb⟩ := Option.bind_eq_some_iff.1 h
  obtain ⟨event, hn, hc⟩ := Option.bind_eq_some_iff.1 he
  obtain ⟨operation, rfl, ho⟩ := start_of_cacheEvent? hc hb
  exact ⟨operation, hn, ho⟩

theorem listing_event {n : Nat} {event : Event} (he : run.event n = some event) :
    (run.listing key).event n = (run.state n).cacheEvent? key event := by
  simp [listing, he]

theorem listing_state (n : Nat) : (run.listing key).state n = (run.state n).cache key := by
  induction n with
  | zero =>
    obtain ⟨settings, h⟩ := run.made
    exact ((initial_of_ofSettings h).1 key).symm
  | succ n ih =>
    rcases run.step_cases n with ⟨he, hs, -⟩ | ⟨event, he, t⟩
    · have hl : (run.listing key).event n = none := by simp [listing, he]
      simp only [Cache.Run.state, hl, hs, ih]
    · have hl := run.listing_event key he
      rw [t.cache key, cacheAfter]
      simp only [Cache.Run.state, hl, ih]
      cases (run.state n).cacheEvent? key event <;> rfl

theorem listing_effect {n : Nat} {event : Event} (he : run.event n = some event) :
    (run.listing key).effect n = (run.state n).cacheEffect? key (run.clock n) event := by
  unfold Cache.Run.effect cacheEffect?
  rw [run.listing_event key he, listing_state]
  rfl

variable {run key}

theorem listing_event_of_reads {n call : Nat} {operation : Operation}
    (he : run.event n = some (.start call operation)) (reads : operation.reads? = some key) :
    (run.listing key).event n = some (.read call) := by
  rw [run.listing_event key he, (Touches.read reads).cacheEvent?]

theorem listing_event_of_refreshes {n call : Nat} {operation : Operation}
    (he : run.event n = some (.start call operation)) (refreshes : operation.refreshes? = some key) :
    (run.listing key).event n = some (.refresh call) := by
  rw [run.listing_event key he, (Touches.refresh refreshes).cacheEvent?]

/-- What the cache of a listing answers, the client answers. -/
theorem effect_of_listing {n call : Nat} {outcome : Outcome (List key.Item)}
    (h : (run.listing key).effect n = some (.answer call outcome)) :
    run.effect n = some (.answer call (outcome.map (Answer.listing key))) := by
  obtain ⟨cacheEvent, hc, -⟩ := Option.bind_eq_some_iff.1 h
  obtain ⟨event, he, -⟩ := Option.bind_eq_some_iff.1 hc
  rw [listing_effect run key he] at h
  rw [effect_eq he]
  exact effect_of_answer h

end Run

end Fleet.Client

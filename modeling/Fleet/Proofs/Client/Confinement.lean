/-
What a listing depends on. An event either concerns a listing or leaves the cache of the listing
and the requests for it as they are, so two runs in which the same events concern a listing show
the same of it (`sameOn_of_agreesOn`). No event of a change concerns the machines, and from every
run the changes can be left out (`confined`). Together with what a failed change leaves behind this
says how far changes reach (`changes_confined`).
-/
import Fleet.Proofs.Client.Absence
import Fleet.Proofs.Client.Replies

namespace Fleet.Client

/-! ## Events that concern a listing -/

/-- Whether an event concerns a listing: it belongs to a call that shows the listing or to a
request for it, makes it stale, or drops a call. -/
def Event.concerns (key : ResourceKey) : Event → Bool
  | .start _ operation => operation.listing? = some key || operation.spoils key
  | .dispatch errand => errand.purpose = .listing key
  | .receive exchange reply =>
    match exchange.purpose with
    | .listing other => other = key
    | .change change => key = .blueprints && (exchange.result change.decode? reply).isOk
    | _ => false
  | .resume other => other = key
  | .resumeChange => false
  | .drop _ => true

/-- Two clients are alike as far as a listing goes. -/
structure Alike (key : ResourceKey) (client other : Client) : Prop where
  base : other.base = client.base
  session : other.session = client.session
  cache : other.cache key = client.cache key
  errands : ∀ errand, errand.purpose = .listing key →
    (errand ∈ other.errands ↔ errand ∈ client.errands)

namespace Alike

variable {key : ResourceKey} {client other third : Client}

theorem symm (h : Alike key client other) : Alike key other client :=
  ⟨h.base.symm, h.session.symm, h.cache.symm, fun errand hp => (h.errands errand hp).symm⟩

theorem trans (h : Alike key client other) (h' : Alike key other third) : Alike key client third :=
  ⟨h'.base.trans h.base, h'.session.trans h.session, h'.cache.trans h.cache,
    fun errand hp => (h'.errands errand hp).trans (h.errands errand hp)⟩

theorem request_eq (h : Alike key client other) (purpose : Purpose) :
    other.request purpose = client.request purpose := by
  unfold Client.request
  rw [h.base, h.session]

section Both

variable (h : Alike key client other)
include h

theorem withCache (cache : Cache (List key.Item)) :
    Alike key (client.withCache key cache) (other.withCache key cache) := by
  have same : (other.withCache key cache).cache key = (client.withCache key cache).cache key := by
    rw [cache_withCache, cache_withCache]
  obtain ⟨machines, blueprints, hc⟩ := client.withCache_frame key cache
  obtain ⟨machines', blueprints', ho⟩ := other.withCache_frame key cache
  rw [hc, ho] at same ⊢
  exact { h with cache := same }

theorem post (call : Nat) (purpose : Purpose) :
    Alike key (client.post call purpose) (other.post call purpose) where
  base := h.base
  session := h.session
  cache := by rw [cache_post, cache_post, h.cache]
  errands errand hp := by
    show errand ∈ other.errands ++ _ ↔ errand ∈ client.errands ++ _
    rw [List.mem_append, List.mem_append, h.errands errand hp]

theorem unpost (errand : Errand) : Alike key (client.unpost errand) (other.unpost errand) where
  base := h.base
  session := h.session
  cache := (cache_congr key rfl rfl).trans (h.cache.trans (cache_congr key rfl rfl))
  errands other_errand hp := by
    show other_errand ∈ other.errands.filter _ ↔ other_errand ∈ client.errands.filter _
    rw [List.mem_filter, List.mem_filter, h.errands other_errand hp]

theorem listing (now : Nat) (event : Cache.Event (List key.Item)) :
    Alike key (client.listing key now event).1 (other.listing key now event).1 ∧
      (other.listing key now event).2 = (client.listing key now event).2 := by
  have stored := h.withCache ((client.cache key).step now event).1
  unfold Client.listing
  rw [h.cache]
  simp only
  split
  · exact ⟨stored, rfl⟩
  · exact ⟨stored, rfl⟩
  · exact ⟨stored.post _ _, rfl⟩

theorem setSession (session : Option SessionCookie) :
    Alike key (client.setSession session) (other.setSession session) where
  base := h.base
  session := rfl
  cache := by rw [cache_setSession, cache_setSession, h.cache]
  errands := h.errands

theorem invalidate : Alike key (client.invalidate key) (other.invalidate key) := by
  unfold Client.invalidate
  rw [h.cache]
  exact h.withCache _

theorem endChange : Alike key client.endChange other.endChange where
  base := h.base
  session := h.session
  cache := by rw [cache_endChange, cache_endChange, h.cache]
  errands := h.errands

theorem drop (call : Nat) : Alike key (client.drop call) (other.drop call) where
  base := h.base
  session := h.session
  cache := by rw [cache_drop, cache_drop, h.cache]
  errands errand hp := by
    show errand ∈ other.errands.filter _ ↔ errand ∈ client.errands.filter _
    rw [List.mem_filter, List.mem_filter, h.errands errand hp]

end Both

/-- An event that touches the listing comes to the same. -/
theorem step_of_touches {event : Event} {cacheEvent : Cache.Event (List key.Item)}
    {left left' : Client} (same : Alike key left left')
    (touches : Touches client event key cacheEvent left)
    (touches' : Touches other event key cacheEvent left') (now : Nat) :
    Alike key (client.step now event).1 (other.step now event).1 ∧
      (other.step now event).2 = (client.step now event).2 := by
  rw [touches.step, touches'.step]
  exact same.listing now cacheEvent

section Concerned

variable (h : Alike key client other)
include h

/-- A call begins that shows the listing or makes it stale. -/
theorem step_of_start {now call : Nat} {operation : Operation}
    (concerns : (Event.start call operation).concerns key = true) :
    Alike key (client.step now (.start call operation)).1
        (other.step now (.start call operation)).1 ∧
      (other.step now (.start call operation)).2 =
        (client.step now (.start call operation)).2 := by
  by_cases reads : operation.reads? = some key
  · exact step_of_touches h (.read reads) (.read reads) now
  · by_cases refreshes : operation.refreshes? = some key
    · exact step_of_touches h (.refresh refreshes) (.refresh refreshes) now
    · cases operation with
      | cachedInventory =>
        obtain rfl : .machines = key := by simpa [Event.concerns, Operation.listing?] using concerns
        have machines : other.machines = client.machines := h.cache
        refine ⟨h, ?_⟩
        simp only [step, start, cachedInventory, machines]
      | setSession session => exact ⟨h.setSession session, rfl⟩
      | invalidate key' =>
        obtain rfl : key' = key := by simpa [Event.concerns, Operation.listing?] using concerns
        exact ⟨h.invalidate, rfl⟩
      | machines | refreshMachines | machineRecords | inventory | blueprints | refreshBlueprints =>
        simp [Event.concerns, Operation.listing?] at concerns reads refreshes
        exact absurd concerns (by assumption)
      | blueprint | change | value =>
        simp [Event.concerns, Operation.listing?] at concerns

theorem step_of_dispatch {now : Nat} {errand : Errand} (purpose : errand.purpose = .listing key) :
    Alike key (client.step now (.dispatch errand)).1 (other.step now (.dispatch errand)).1 ∧
      (other.step now (.dispatch errand)).2 = (client.step now (.dispatch errand)).2 := by
  by_cases waits : errand ∈ client.errands
  · have waits' := (h.errands errand purpose).2 waits
    cases made : client.request (.listing key) with
    | ok request =>
      have made' : other.request (.listing key) = .ok request := (h.request_eq _).trans made
      simp only [step, dispatch, if_pos waits, if_pos waits', purpose, made, made']
      exact ⟨h.unpost errand, trivial⟩
    | error failure =>
      have made' : other.request (.listing key) = .error failure := (h.request_eq _).trans made
      exact step_of_touches (h.unpost errand) (.abort waits purpose made)
        (.abort waits' purpose made') now
  · have gone' := mt (h.errands errand purpose).1 waits
    simp only [step, dispatch, if_neg waits, if_neg gone']
    exact ⟨h, trivial⟩

theorem step_of_receive {now : Nat} {exchange : Exchange} {reply : Option Reply}
    (concerns : (Event.receive exchange reply).concerns key = true) :
    Alike key (client.step now (.receive exchange reply)).1
        (other.step now (.receive exchange reply)).1 ∧
      (other.step now (.receive exchange reply)).2 =
        (client.step now (.receive exchange reply)).2 := by
  cases purpose : exchange.purpose with
  | listing key' =>
    obtain rfl : key' = key := by simpa [Event.concerns, purpose] using concerns
    exact step_of_touches h (.reply purpose) (.reply purpose) now
  | blueprint | value => simp [Event.concerns, purpose] at concerns
  | change change =>
    simp only [Event.concerns, purpose, Bool.and_eq_true, decide_eq_true_eq] at concerns
    obtain ⟨rfl, accepted⟩ := concerns
    simp only [step, receive, purpose, receiveChange]
    cases hr : exchange.result change.decode? reply with
    | ok answer => exact ⟨h.invalidate.endChange, rfl⟩
    | error failure =>
      rw [hr] at accepted
      cases accepted

/-- An event that concerns the listing comes to the same. -/
theorem step_of_concerns {event : Event} (concerns : event.concerns key = true) (now : Nat) :
    Alike key (client.step now event).1 (other.step now event).1 ∧
      (other.step now event).2 = (client.step now event).2 := by
  cases event with
  | start call operation => exact h.step_of_start concerns
  | dispatch errand => exact h.step_of_dispatch (of_decide_eq_true concerns)
  | receive exchange reply => exact h.step_of_receive concerns
  | resume key' =>
    obtain rfl := of_decide_eq_true concerns
    exact step_of_touches h .resume .resume now
  | resumeChange => cases concerns
  | drop call => exact ⟨h.drop call, rfl⟩

end Concerned

end Alike

/-! ## Events that do not concern a listing -/

section Unconcerned

variable {client next : Client} {now : Nat} {event : Event} {effect : Option Effect}
  {key : ResourceKey}

/-- Every event of the cache of a listing concerns the listing. -/
theorem concerns_of_cacheEvent? {cacheEvent : Cache.Event (List key.Item)}
    (h : client.cacheEvent? key event = some cacheEvent) : event.concerns key = true := by
  rcases cacheEvent?_cases h with ⟨left, touches⟩ | ⟨spoils, -⟩ | ⟨call, rfl, -⟩
  · cases touches with
    | read reads => simp [Event.concerns, Operation.listing?_of_reads (.inl reads)]
    | refresh refreshes => simp [Event.concerns, Operation.listing?_of_reads (.inr refreshes)]
    | resume => simp [Event.concerns]
    | reply purpose => simp [Event.concerns, purpose]
    | abort waits purpose => simp [Event.concerns, purpose]
  · cases spoils with
    | start spoils => exact Bool.or_eq_true_iff.2 (.inr spoils)
    | change blueprints purpose accepted => simp [Event.concerns, purpose, blueprints, accepted]
  · rfl

theorem cacheEvent?_of_unconcerned (h : event.concerns key = false) :
    client.cacheEvent? key event = none := by
  rw [Option.eq_none_iff_forall_ne_some]
  intro cacheEvent some_event
  rw [concerns_of_cacheEvent? some_event] at h
  cases h

/-- The requests for the listing are those that were to be made. -/
theorem Transition.mem_errands_of_unconcerned (t : Transition client now event next effect)
    (h : event.concerns key = false) {errand : Errand} (purpose : errand.purpose = .listing key) :
    errand ∈ next.errands ↔ errand ∈ client.errands := by
  rcases t.errands_cases with hs | ⟨call, posted, hp, hs⟩ | ⟨other, -, rfl, hs⟩ | ⟨call, rfl, -⟩
  · rw [hs]
  · have apart : errand ≠ ⟨call, posted⟩ := by
      rintro rfl
      dsimp only at purpose
      subst purpose
      cases hp with
      | listing fetches =>
        rw [cacheEffect?, cacheEvent?_of_unconcerned h] at fetches
        cases fetches
      | other starts posts => cases posts
    rw [hs, List.mem_append, List.mem_singleton]
    exact or_iff_left apart
  · have apart : errand ≠ other := by
      rintro rfl
      simp [Event.concerns, purpose] at h
    rw [hs, List.mem_filter]
    exact and_iff_left (by simpa using apart)
  · cases h

/-- An event that does not concern a listing leaves the client alike. -/
theorem Transition.alike (t : Transition client now event next effect)
    (h : event.concerns key = false) : Alike key client next := by
  have credential : event.credential client.session = client.session := by
    cases event with
    | start call operation =>
      cases operation with
      | setSession session => simp [Event.concerns] at h
      | _ => rfl
    | _ => rfl
  have cache : next.cache key = client.cache key := by
    rw [t.cache key, cacheAfter, cacheEvent?_of_unconcerned h]
  have errands : ∀ errand, errand.purpose = .listing key →
      (errand ∈ next.errands ↔ errand ∈ client.errands) :=
    fun errand purpose => t.mem_errands_of_unconcerned h purpose
  obtain ⟨machines, blueprints, changes, changing, list, hs⟩ := t.frame
  refine ⟨by rw [hs], ?_, cache, errands⟩
  rw [hs]
  exact credential

end Unconcerned

/-! ## Runs in which the same events concern a listing -/

namespace Schedule

/-- The same events concern the listing, in the same steps. -/
structure AgreesOn (key : ResourceKey) (schedule other : Schedule) : Prop where
  initial : other.initial = schedule.initial
  clock : other.clock = schedule.clock
  events : ∀ n event, event.concerns key = true →
    (other.event n = some event ↔ schedule.event n = some event)

variable {key : ResourceKey} {schedule other : Schedule}

/-- A step in which nothing concerns the listing leaves the client alike. -/
theorem alike_succ {n : Nat}
    (unconcerned : ∀ event, schedule.event n = some event → event.concerns key = false) :
    Alike key (schedule.state n) (schedule.state (n + 1)) := by
  cases he : schedule.event n with
  | none =>
    rw [state.eq_2, he]
    exact ⟨rfl, rfl, rfl, fun _ _ => Iff.rfl⟩
  | some event =>
    rw [state.eq_2, he]
    exact (step_transition _ _ _).alike (unconcerned event he)

/-- The clients stay alike. -/
theorem AgreesOn.alike (h : AgreesOn key schedule other) (n : Nat) :
    Alike key (schedule.state n) (other.state n) := by
  induction n with
  | zero =>
    show Alike key schedule.initial other.initial
    rw [h.initial]
    exact ⟨rfl, rfl, rfl, fun _ _ => Iff.rfl⟩
  | succ n ih =>
    by_cases concerned : ∃ event, event.concerns key = true ∧ schedule.event n = some event
    · obtain ⟨event, concerns, he⟩ := concerned
      have he' := (h.events n event concerns).2 he
      rw [state.eq_2, state.eq_2, he, he', h.clock]
      exact (ih.step_of_concerns concerns _).1
    · -- nothing concerns the listing in either run
      have here : ∀ event, schedule.event n = some event → event.concerns key = false := by
        intro event he
        by_contra concerns
        exact concerned ⟨event, by simpa using concerns, he⟩
      have there : ∀ event, other.event n = some event → event.concerns key = false := by
        intro event he
        by_contra concerns
        rw [Bool.not_eq_false] at concerns
        exact concerned ⟨event, concerns, (h.events n event concerns).1 he⟩
      exact (alike_succ here).symm.trans (ih.trans (alike_succ there))

/-- What concerns the listing leads to the same. -/
theorem AgreesOn.effect_eq (h : AgreesOn key schedule other) {n : Nat} {event : Event}
    (concerns : event.concerns key = true) (he : schedule.event n = some event) :
    other.effect n = schedule.effect n := by
  rw [effect, effect, he, (h.events n event concerns).2 he, Option.bind_some, Option.bind_some,
    h.clock]
  exact ((h.alike n).step_of_concerns concerns _).2

end Schedule

namespace Run

open Schedule (AgreesOn)

variable {key : ResourceKey} {run other : Run}

/-- Two runs show the same of a listing. -/
structure SameOn (key : ResourceKey) (run other : Run) : Prop where
  cache : ∀ n, (other.state n).cache key = (run.state n).cache key
  /-- A call that shows the listing gets the same answer in the same step. -/
  answers : ∀ {j k call : Nat} {operation : Operation} {result : Except Failure Answer},
    operation.listing? = some key → run.event j = some (.start call operation) →
    (other.effect k = some (.answer call result) ↔ run.effect k = some (.answer call result))
  /-- The same requests for the listing are sent in the same steps. -/
  sends : ∀ {n : Nat} {exchange : Exchange}, exchange.purpose = .listing key →
    (other.effect n = some (.send exchange) ↔ run.effect n = some (.send exchange))

/-- A step in which a call that shows the listing is answered concerns the listing. -/
theorem concerns_of_answer {j k call : Nat} {operation : Operation}
    {result : Except Failure Answer} (ho : operation.listing? = some key)
    (hj : run.event j = some (.start call operation))
    (hk : run.effect k = some (.answer call result)) :
    ∃ event, run.event k = some event ∧ event.concerns key = true := by
  rcases answer_of_listing hj ho hk with ⟨-, rfl, -⟩ | ⟨-, outcome, hc, -⟩
  · exact ⟨_, hj, by simp [Event.concerns, ho]⟩
  · obtain ⟨cacheEvent, hl, -⟩ := Option.bind_eq_some_iff.1 hc
    obtain ⟨event, he, hl⟩ := Option.bind_eq_some_iff.1 hl
    exact ⟨event, he, concerns_of_cacheEvent? hl⟩

theorem concerns_of_send {n : Nat} {exchange : Exchange} (purpose : exchange.purpose = .listing key)
    (hf : run.effect n = some (.send exchange)) :
    ∃ event, run.event n = some event ∧ event.concerns key = true :=
  ⟨_, (dispatch_of_send hf).1, by simp [Event.concerns, purpose]⟩

/-- A listing depends on nothing but the events that concern it. -/
theorem sameOn_of_agreesOn (h : AgreesOn key run.toSchedule other.toSchedule) :
    run.SameOn key other where
  cache n := (h.alike n).cache
  answers := by
    intro j k call operation result ho hj
    have shows : (Event.start call operation).concerns key = true := by simp [Event.concerns, ho]
    constructor
    · intro hk
      obtain ⟨event, he, concerns⟩ := concerns_of_answer ho ((h.events j _ shows).2 hj) hk
      rw [← h.effect_eq concerns ((h.events k event concerns).1 he)]
      exact hk
    · intro hk
      obtain ⟨event, he, concerns⟩ := concerns_of_answer ho hj hk
      rw [h.effect_eq concerns he]
      exact hk
  sends := by
    intro n exchange purpose
    constructor
    · intro hf
      obtain ⟨event, he, concerns⟩ := concerns_of_send purpose hf
      rw [← h.effect_eq concerns ((h.events n event concerns).1 he)]
      exact hf
    · intro hf
      obtain ⟨event, he, concerns⟩ := concerns_of_send purpose hf
      rw [h.effect_eq concerns he]
      exact hf

/-! ## Runs without changes -/

/-- What concerns the machines in a run, and nothing else. -/
def machinesOnly (run : Run) : Schedule where
  initial := run.initial
  clock := run.clock
  event n := (run.event n).filter (·.concerns .machines)

theorem agreesOn_machinesOnly (run : Run) :
    AgreesOn .machines run.toSchedule run.machinesOnly where
  initial := rfl
  clock := rfl
  events n event concerns := by
    show (run.event n).filter _ = some event ↔ _
    rw [Option.filter_eq_some_iff]
    exact and_iff_left concerns

theorem event_machinesOnly_of_not {n : Nat} {event : Event} (he : run.event n = some event)
    (unconcerned : event.concerns .machines = false) : run.machinesOnly.event n = none := by
  show (run.event n).filter _ = none
  rw [he, Option.filter_some_neg unconcerned]

/-- Requests for the machines are sent in steps that concern the machines, -/
theorem sent_machinesOnly (run : Run) (n : Nat) :
    Effect.sent (run.machinesOnly.effect n) =
      (Effect.sent (run.effect n)).filter (·.purpose = .listing .machines) := by
  have agrees := run.agreesOn_machinesOnly
  by_cases sent : ∃ exchange, run.effect n = some (.send exchange)
  · obtain ⟨exchange, hf⟩ := sent
    have he := (dispatch_of_send hf).1
    by_cases purpose : exchange.purpose = .listing .machines
    · have concerns : (Event.dispatch exchange.toErrand).concerns .machines = true := by
        simp [Event.concerns, purpose]
      rw [agrees.effect_eq concerns he, hf]
      simp [Effect.sent, purpose]
    · have quiet : run.machinesOnly.effect n = none := by
        rw [Schedule.effect, event_machinesOnly_of_not he (by simp [Event.concerns, purpose])]
        rfl
      rw [quiet, hf]
      simp [Effect.sent, purpose]
  · have unsent : ∀ exchange, run.effect n ≠ some (.send exchange) :=
      fun exchange hf => sent ⟨exchange, hf⟩
    have unsent' : ∀ exchange, run.machinesOnly.effect n ≠ some (.send exchange) := by
      intro exchange hf
      obtain ⟨event, he', -⟩ := Option.bind_eq_some_iff.1 hf
      obtain ⟨he, concerns⟩ := Option.filter_eq_some_iff.1 he'
      rw [agrees.effect_eq concerns he] at hf
      exact unsent exchange hf
    rw [Effect.sent_eq_nil unsent, Effect.sent_eq_nil unsent']
    rfl

/-- and so are they ended. -/
theorem ends_machinesOnly {n : Nat} {exchange : Exchange}
    (purpose : exchange.purpose = .listing .machines) :
    Event.ends (run.machinesOnly.event n) exchange = Event.ends (run.event n) exchange := by
  cases he : run.event n with
  | none =>
    have he' : run.machinesOnly.event n = none := by
      show (run.event n).filter _ = none
      rw [he]
      rfl
    rw [he']
  | some event =>
    cases concerns : event.concerns .machines with
    | true => rw [(run.agreesOn_machinesOnly.events n event concerns).2 he]
    | false =>
      rw [event_machinesOnly_of_not he concerns]
      cases event with
      | receive other reply =>
        have apart : exchange ≠ other := by
          rintro rfl
          simp [Event.concerns, purpose] at concerns
        simp [Event.ends, apart]
      | drop call => cases concerns
      | start | dispatch | resume | resumeChange => rfl

theorem inFlight_machinesOnly (run : Run) (n : Nat) :
    run.machinesOnly.inFlight n = run.exchangesFor .machines n := by
  induction n with
  | zero => rfl
  | succ n ih =>
    rw [Schedule.inFlight_succ, exchangesFor, Schedule.filter_inFlight_succ, ih, sent_machinesOnly]
    congr 1
    refine List.filter_congr fun exchange listed => ?_
    rw [ends_machinesOnly (of_decide_eq_true (List.mem_filter.1 listed).2)]

/-- The run with nothing but what concerns the machines. -/
def confined (run : Run) : Run where
  toSchedule := run.machinesOnly
  made := run.made
  clock_mono := run.clock_mono
  once := by
    have begins : ∀ {i who : Nat}, (run.machinesOnly.event i).bind Event.begins? = some who →
        (run.event i).bind Event.begins? = some who := by
      intro i who h
      obtain ⟨event, he, hb⟩ := Option.bind_eq_some_iff.1 h
      rw [(Option.filter_eq_some_iff.1 he).1]
      exact hb
    intro i j who hi hj
    exact run.once (begins hi) (begins hj)
  heard := by
    intro n exchange reply he
    obtain ⟨he, concerns⟩ := Option.filter_eq_some_iff.1 he
    rw [inFlight_machinesOnly]
    refine List.mem_filter.2 ⟨run.heard he, ?_⟩
    cases purpose : exchange.purpose with
    | listing key => simpa [Event.concerns, purpose] using concerns
    | blueprint | value | change => simp [Event.concerns, purpose] at concerns

/-! ## How far changes reach -/

/-- No step of a call for a change touches the machines. -/
theorem machines_of_change {j n call : Nat} {request : ChangeRequest}
    (hj : run.event j = some (.start call (.change request))) {event : Event}
    (he : run.event n = some event) (own : event.call? = some call) :
    (run.state (n + 1)).cache .machines = (run.state n).cache .machines := by
  have unspoilt : ∀ cacheEvent, (run.state n).cacheEvent? .machines event = some cacheEvent →
      cacheEvent = .drop call := by
    intro cacheEvent h
    rcases cacheEvent?_cases h with ⟨left, touches⟩ | ⟨spoils, -⟩ | ⟨who, rfl, rfl⟩
    · exact absurd touches (not_touches_of_change hj he own)
    · cases spoils with
      | start spoils =>
        obtain rfl := Option.some.inj own
        obtain ⟨-, rfl⟩ := start_unique hj he
        cases spoils
      | change blueprints => cases blueprints
    · rw [Option.some.inj own]
  rw [(transition he).cache .machines, cacheAfter]
  cases h : (run.state n).cacheEvent? .machines event with
  | none => rfl
  | some cacheEvent =>
    rw [unspoilt cacheEvent h]
    exact drop_cache_of_change hj .machines

/-- How far the changes of a run reach. -/
structure ChangesConfined (run : Run) : Prop where
  /-- A change that fails, in whatever way, leaves no trace on either listing. -/
  failed : ∀ {j k call : Nat} {request : ChangeRequest} {failure : Failure},
    run.event j = some (.start call (.change request)) →
    run.effect k = some (.answer call (.error failure)) → run.Traceless call
  /-- However a change ends, it does nothing to the machines. -/
  untouched : ∀ {j n call : Nat} {request : ChangeRequest} {event : Event},
    run.event j = some (.start call (.change request)) → run.event n = some event →
    event.call? = some call →
    (run.state (n + 1)).cache .machines = (run.state n).cache .machines
  /-- A run in which the same events concern the machines, whatever changes are made there, shows
  the same of the machines, -/
  machines : ∀ other : Run, AgreesOn .machines run.toSchedule other.toSchedule →
    run.SameOn .machines other
  /-- and there is one in which no change is ever asked for. -/
  absent : ∃ other : Run, AgreesOn .machines run.toSchedule other.toSchedule ∧
    ∀ n call request, other.event n ≠ some (.start call (.change request))

/-- In every run failed changes leave no trace, and no change reaches the machines. -/
theorem changes_confined (run : Run) : run.ChangesConfined where
  failed := traceless_of_failure
  untouched hj he own := machines_of_change hj he own
  machines _ := sameOn_of_agreesOn
  absent := by
    refine ⟨run.confined, run.agreesOn_machinesOnly, fun n call request he => ?_⟩
    have concerns := (Option.filter_eq_some_iff.1 he).2
    cases concerns

def fetchExchange : Exchange := plainExchange 0 (.listing .machines) ["machines"]

def refusedExchange : Exchange := plainExchange 1 (.change (.delete plainId)) ["blueprints", "b1"]

/-- The backend refuses a deletion while the machines are fetched. -/
def refusedMidway : Run := ofEvents plainSettings isOk_plainSettings
  [.start 0 .machines, .dispatch fetchExchange.toErrand, .start 1 (.change (.delete "b1")),
    .dispatch refusedExchange.toErrand, .receive refusedExchange (some ⟨500, some ""⟩),
    .receive fetchExchange (some ⟨200, some "[]"⟩), .start 2 .machines]
  (by decide) (by decide +kernel)

theorem refusedMidway_confined :
    refusedMidway.event 2 = some (.start 1 (.change (.delete "b1"))) ∧
    refusedMidway.effect 4 = some (.answer 1 (.error (Reply.refusal ⟨500, some ""⟩))) ∧
    refusedMidway.Traceless 1 ∧
    (refusedMidway.state 5).cache .machines = (refusedMidway.state 4).cache .machines := by
  have confined := changes_confined refusedMidway
  have begun : refusedMidway.event 2 = some (.start 1 (.change (.delete "b1"))) := rfl
  have refused : refusedMidway.effect 4 = some (.answer refusedExchange.call
      (refusedExchange.result (Change.delete plainId).decode? (some ⟨500, some ""⟩))) :=
    effect_of_change rfl rfl
  rw [Exchange.result_of_refused rfl] at refused
  exact ⟨begun, refused, confined.failed begun refused, confined.untouched begun rfl rfl⟩

end Run

end Fleet.Client

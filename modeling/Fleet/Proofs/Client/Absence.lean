/-
A change that fails might as well not have been asked for. The run without its call is again a run,
in which all other calls get the same answers and send the same requests in the same steps, and the
listings are the same throughout (`traceless_of_failure`).
-/
import Fleet.Proofs.Client.Lacking

namespace Fleet.Client

/-! ## Calls of events and effects -/

/-- The call that an event is about. -/
def Event.call? : Event → Option Nat
  | .start call _ | .drop call => some call
  | .dispatch errand => some errand.call
  | .receive exchange _ => some exchange.call
  | .resume _ | .resumeChange => none

/-- The call that an event leads to something for. -/
def Effect.call : Effect → Nat
  | .send exchange => exchange.call
  | .answer call _ => call

/-- Whether the event lets a request through that is not to be made. -/
def Event.isIdle (client : Client) : Event → Bool
  | .dispatch errand => errand ∉ client.errands
  | _ => false

/-- An event leads to something for its own call, or to the answer of a cache. -/
theorem Transition.call_cases {client next : Client} {now : Nat} {event : Event} {effect : Effect}
    (t : Transition client now event next (some effect)) :
    event.call? = some effect.call ∨
    ∃ key outcome, client.cacheEffect? key now event = some (.answer effect.call outcome) := by
  cases effect with
  | send exchange =>
    obtain ⟨rfl, -, -⟩ := t.send_cases
    exact .inl rfl
  | answer call result =>
    rcases t.answer_cases with ⟨key, outcome, hc, -⟩ | ⟨operation, rfl, -, -⟩ |
      ⟨errand, -, rfl, rfl, -⟩ | ⟨exchange, reply, rfl, rfl, -⟩
    · exact .inr ⟨key, outcome, hc⟩
    · exact .inl rfl
    · exact .inl rfl
    · exact .inl rfl

theorem Effect.sent_filter (effect : Option Effect) (call : Nat) :
    sent (effect.filter (·.call != call)) = (sent effect).filter (·.call != call) := by
  rcases effect with _ | effect
  · rfl
  · cases effect with
    | answer who result =>
      rw [Option.filter_some]
      split <;> rfl
    | send exchange =>
      by_cases own : exchange.call = call
      · rw [Option.filter_some_neg (by simpa [Effect.call] using own)]
        simp [sent, own]
      · rw [Option.filter_some_pos (by simpa [Effect.call] using own)]
        simp [sent, own]

/-- An event of a call ends no request of another one. -/
theorem Event.not_ends_of_call {event : Event} {exchange : Exchange}
    (apart : event.call? ≠ some exchange.call) : Event.ends (some event) exchange = false := by
  rw [← Bool.not_eq_true, Event.ends_iff]
  rintro (⟨reply, same⟩ | same)
  · rw [Option.some.inj same] at apart
    exact apart rfl
  · rw [Option.some.inj same] at apart
    exact apart rfl

namespace Run

variable {run : Run}

/-! ## The run without a call -/

/-- What happens in a run apart from a call for a change; requests that are not to be made are not
let through either. -/
def without (run : Run) (call : Nat) : Schedule where
  initial := run.initial
  clock := run.clock
  event n := (run.event n).filter fun event =>
    event.call? != some call && !event.isIdle (run.state n)

section Other

variable {n call : Nat} {other : Client} (h : Lacks call (run.state n) other)
include h

/-- Another call begins. -/
theorem lacks_of_start {who : Nat} {operation : Operation} (apart : who ≠ call) :
    Lacks call ((run.state n).start (run.clock n) who operation).1
        (other.start (run.clock n) who operation).1 ∧
      (other.start (run.clock n) who operation).2 =
        ((run.state n).start (run.clock n) who operation).2 := by
  have atWork := run.atWork n
  cases operation with
  | machines | machineRecords | inventory => exact h.listing .machines _ (.read who)
  | refreshMachines => exact h.listing .machines _ (.refresh who)
  | blueprints => exact h.listing .blueprints _ (.read who)
  | refreshBlueprints => exact h.listing .blueprints _ (.refresh who)
  | cachedInventory =>
    have machines : other.machines = (run.state n).machines := h.cache .machines
    refine ⟨h, ?_⟩
    simp only [start, cachedInventory, machines]
  | blueprint text =>
    simp only [start]
    cases ResourceId.ofText text with
    | ok id => exact ⟨h.post who (.blueprint id), rfl⟩
    | error fault => exact ⟨h, rfl⟩
  | change request =>
    simp only [start]
    cases request.check with
    | ok change =>
      exact ⟨h.enterChange (run.changes_fair n) atWork.idle_of_free apart, rfl⟩
    | error reason => exact ⟨h, rfl⟩
  | value path =>
    simp only [start]
    exact ⟨h.post who (.value path), trivial⟩
  | setSession session =>
    simp only [start]
    exact ⟨h.setSession session, trivial⟩
  | invalidate key =>
    simp only [start]
    exact ⟨h.invalidate key, trivial⟩

/-- The request of another call is let through. -/
theorem lacks_of_dispatch {errand : Errand} (apart : errand.call ≠ call)
    (waits : errand ∈ (run.state n).errands) :
    Lacks call ((run.state n).dispatch (run.clock n) errand).1
        (other.dispatch (run.clock n) errand).1 ∧
      (other.dispatch (run.clock n) errand).2 =
        ((run.state n).dispatch (run.clock n) errand).2 := by
  have held : ∀ pending, other.changes.holder = some pending → pending.errand = errand →
      (run.state n).changes.holder = some pending ∧ (run.state n).changing = true := by
    rintro pending - rfl
    obtain ⟨first, holds, busy, same, -⟩ := alone_of_changeErrand (run.atWork n) waits rfl
    obtain rfl : pending = first := by
      cases pending
      cases first
      cases same
      rfl
    exact ⟨holds, busy⟩
  -- the request waits in both clients and comes out alike in both
  have unposted := h.unpost held
  unfold dispatch
  rw [if_pos waits, if_pos (h.waiting errand waits apart), h.request_eq]
  cases (run.state n).request errand.purpose with
  | ok request => exact ⟨unposted, rfl⟩
  | error failure =>
    simp only [abort]
    cases purpose : errand.purpose with
    | listing key => exact unposted.listing key _ _
    | blueprint | value => exact ⟨unposted, rfl⟩
    | change change =>
      exact ⟨unposted.endChange (run.changes_fair n) (holder_of_changeErrand waits purpose) apart,
        rfl⟩

/-- The reply to another call has come. -/
theorem lacks_of_receive {exchange : Exchange} {reply : Option Reply}
    (apart : exchange.call ≠ call) (heard : exchange ∈ run.inFlight n) :
    Lacks call ((run.state n).receive (run.clock n) exchange reply).1
        (other.receive (run.clock n) exchange reply).1 ∧
      (other.receive (run.clock n) exchange reply).2 =
        ((run.state n).receive (run.clock n) exchange reply).2 := by
  unfold receive
  cases purpose : exchange.purpose with
  | listing key => exact h.listing key _ _
  | blueprint | value => exact ⟨h, rfl⟩
  | change change =>
    -- only a change that is being made has a request under way, so its call holds the lock
    have holds := holder_of_changeExchange heard purpose
    have fair := run.changes_fair n
    simp only [receiveChange]
    cases exchange.result change.decode? reply with
    | ok answer =>
      exact ⟨(h.invalidate .blueprints).endChange fair holds apart, rfl⟩
    | error failure => exact ⟨h.endChange fair holds apart, rfl⟩

/-- What is not about the call comes to the same without it. -/
theorem lacks_of_kept {event : Event} (he : run.event n = some event)
    (apart : event.call? ≠ some call) (real : event.isIdle (run.state n) = false) :
    Lacks call (run.state (n + 1)) (other.step (run.clock n) event).1 ∧
      (other.step (run.clock n) event).2 = run.effect n := by
  rw [state_succ he, effect_eq he]
  cases event with
  | start who operation => exact lacks_of_start h fun same => apart (congrArg some same)
  | dispatch errand =>
    refine lacks_of_dispatch h (fun same => apart (congrArg some same)) ?_
    simpa [Event.isIdle] using real
  | receive exchange reply =>
    exact lacks_of_receive h (fun same => apart (congrArg some same)) (run.heard he)
  | resume key => exact h.listing key _ .resume
  | resumeChange => exact ⟨h.resumeChange, rfl⟩
  | drop gone => exact ⟨h.drop (run.changes_fair n) gone, rfl⟩

end Other

/-! ## Steps of the call in a run -/

section Call

variable {j n call : Nat} {request : ChangeRequest} {other : Client}
  (hj : run.event j = some (.start call (.change request)))
include hj

/-- A call for a change waits for no listing. -/
theorem drop_cache_of_change (key : ResourceKey) :
    ((run.state n).cache key).drop call = (run.state n).cache key := by
  refine Cache.drop_eq_self fun caller waits same => ?_
  rw [← listing_state] at waits
  obtain ⟨i, -, hb⟩ := Cache.Run.begins_of_mem_queue waits
  obtain ⟨operation, hi, reads⟩ := run.start_of_begins hb
  obtain ⟨-, rfl⟩ := start_unique hj (same ▸ hi)
  rcases reads with reads | reads <;> cases reads

variable (h : Lacks call (run.state n) other)
include h

theorem lacks_of_own_start {operation : Operation}
    (he : run.event n = some (.start call operation)) :
    Lacks call (run.state (n + 1)) other := by
  obtain ⟨rfl, rfl⟩ := start_unique hj he
  rw [state_succ he, step, start]
  cases request.check with
  | ok change => exact h.enterChange_alone (run.changes_fair j) (run.atWork j).idle_of_free rfl
  | error reason => exact h

theorem lacks_of_own_dispatch {errand : Errand} (he : run.event n = some (.dispatch errand))
    (hc : errand.call = call) (waits : errand ∈ (run.state n).errands) :
    Lacks call (run.state (n + 1)) other := by
  obtain ⟨i, -, operation, hi, makes⟩ := errand_origin waits
  obtain ⟨change, -, purpose⟩ := change_of_makes hj (hc ▸ hi) makes
  have unposted := h.unpost_alone errand
  rw [state_succ he, step, dispatch, if_pos waits]
  cases (run.state n).request errand.purpose with
  | ok request => exact unposted
  | error failure =>
    simp only [abort, purpose]
    exact unposted.endChange_alone (run.changes_fair n) (holder_of_changeErrand waits purpose) hc

/-- A reply that cannot be used comes to the call. -/
theorem lacks_of_own_receive {exchange : Exchange} {reply : Option Reply}
    (he : run.event n = some (.receive exchange reply)) (hc : exchange.call = call)
    (unused : ∀ answer, run.effect n ≠ some (.answer call (.ok answer))) :
    Lacks call (run.state (n + 1)) other := by
  obtain ⟨i, -, operation, hi, makes⟩ := exchange_origin (run.heard he)
  obtain ⟨change, -, purpose⟩ := change_of_makes hj (hc ▸ hi) makes
  have failed : ¬ (exchange.result change.decode? reply).isOk = true := by
    intro succeeded
    have answered := effect_of_change he purpose
    cases hr : exchange.result change.decode? reply with
    | ok answer =>
      rw [hr, hc] at answered
      exact unused answer answered
    | error failure =>
      rw [hr] at succeeded
      cases succeeded
  -- a failed change does not invalidate the blueprints, it only leaves the lock
  rw [state_succ he, step, receive, purpose]
  simp only
  rw [receiveChange_of_not_isOk failed]
  exact h.endChange_alone (run.changes_fair n) (holder_of_changeExchange (run.heard he) purpose) hc

/-- What is about the call, or lets a request through that is not to be made, is of no account
without it. -/
theorem lacks_of_removed {event : Event} (he : run.event n = some event)
    (unused : ∀ answer, run.effect n ≠ some (.answer call (.ok answer)))
    (removed : event.call? = some call ∨ event.isIdle (run.state n) = true) :
    Lacks call (run.state (n + 1)) other := by
  have idle : event.isIdle (run.state n) = true → Lacks call (run.state (n + 1)) other := by
    intro idle
    cases event with
    | dispatch errand =>
      have gone : errand ∉ (run.state n).errands := by simpa [Event.isIdle] using idle
      rw [state_succ he, step, dispatch, if_neg gone]
      exact h
    | start | receive | resume | resumeChange | drop => cases idle
  rcases removed with own | removed
  · cases event with
    | start who operation => exact lacks_of_own_start hj h (Option.some.inj own ▸ he)
    | dispatch errand =>
      by_cases waits : errand ∈ (run.state n).errands
      · exact lacks_of_own_dispatch hj h he (Option.some.inj own) waits
      · exact idle (by simpa [Event.isIdle] using waits)
    | receive exchange reply =>
      exact lacks_of_own_receive hj h he (Option.some.inj own) unused
    | drop gone =>
      rw [state_succ he, Option.some.inj own]
      exact h.drop_alone (run.changes_fair n) (drop_cache_of_change hj)
    | resume | resumeChange => cases own
  · exact idle removed

end Call

/-- No event of a call for a change is one of a listing. -/
theorem not_touches_of_change {j n call : Nat} {request : ChangeRequest}
    (hj : run.event j = some (.start call (.change request))) {event : Event}
    (he : run.event n = some event) (own : event.call? = some call) {key : ResourceKey}
    {cacheEvent : Cache.Event (List key.Item)} {left : Client} :
    ¬ Touches (run.state n) event key cacheEvent left := by
  intro touches
  cases touches with
  | read reads =>
    obtain rfl := Option.some.inj own
    obtain ⟨-, rfl⟩ := start_unique hj he
    cases reads
  | refresh refreshes =>
    obtain rfl := Option.some.inj own
    obtain ⟨-, rfl⟩ := start_unique hj he
    cases refreshes
  | resume => cases own
  | reply purpose =>
    obtain ⟨i, -, operation, hi, makes⟩ := exchange_origin (run.heard he)
    obtain ⟨change, -, other⟩ := change_of_makes hj (Option.some.inj own ▸ hi) makes
    rw [purpose] at other
    cases other
  | abort waits purpose =>
    obtain ⟨i, -, operation, hi, makes⟩ := errand_origin waits
    obtain ⟨change, -, other⟩ := change_of_makes hj (Option.some.inj own ▸ hi) makes
    rw [purpose] at other
    cases other

/-- A step leads to something for a call for a change just if its event is about that call. -/
theorem call_of_effect {j n call : Nat} {request : ChangeRequest}
    (hj : run.event j = some (.start call (.change request))) {event : Event} {effect : Effect}
    (he : run.event n = some event) (hf : run.effect n = some effect) :
    event.call? = some call ↔ effect.call = call := by
  have t := hf ▸ transition he
  rcases t.call_cases with own | ⟨key, outcome, answered⟩
  · rw [own, Option.some_inj]
  · constructor
    · intro own
      obtain ⟨cacheEvent, left, touches, -⟩ := touches_of_cacheEffect? answered
      exact absurd touches (not_touches_of_change hj he own)
    · -- the caches answer no calls for changes
      intro hc
      rw [← listing_effect run key he] at answered
      obtain ⟨m, -, hb⟩ := Cache.Run.begins_of_answer answered
      obtain ⟨operation, hm, reads⟩ := run.start_of_begins hb
      obtain ⟨-, rfl⟩ := start_unique hj (hc ▸ hm)
      rcases reads with reads | reads <;> cases reads

section Without

variable {call n : Nat} {event : Event}

theorem event_without_of_kept (he : run.event n = some event) (apart : event.call? ≠ some call)
    (real : event.isIdle (run.state n) = false) :
    (run.without call).event n = some event := by
  simp [without, he, apart, real]

theorem event_without_of_removed (he : run.event n = some event)
    (removed : event.call? = some call ∨ event.isIdle (run.state n) = true) :
    (run.without call).event n = none := by
  rcases removed with own | idle
  · simp [without, he, own]
  · simp [without, he, idle]

theorem event_of_without (h : (run.without call).event n = some event) :
    run.event n = some event ∧ event.call? ≠ some call ∧ event.isIdle (run.state n) = false := by
  obtain ⟨he, kept⟩ := Option.filter_eq_some_iff.1 h
  simpa [he] using kept

/-- An event either stays or is removed. -/
theorem kept_or_removed (run : Run) (call n : Nat) (event : Event) :
    (event.call? ≠ some call ∧ event.isIdle (run.state n) = false) ∨
    (event.call? = some call ∨ event.isIdle (run.state n) = true) := by
  by_cases own : event.call? = some call
  · exact .inr (.inl own)
  · cases idle : event.isIdle (run.state n) with
    | false => exact .inl ⟨own, rfl⟩
    | true => exact .inr (.inr rfl)

theorem effect_of_idle (he : run.event n = some event)
    (idle : event.isIdle (run.state n) = true) : run.effect n = none := by
  cases event with
  | dispatch errand =>
    have gone : errand ∉ (run.state n).errands := by simpa [Event.isIdle] using idle
    rw [effect_eq he, step, dispatch, if_neg gone]
  | start | receive | resume | resumeChange | drop => cases idle

end Without

section Simulation

variable {j call : Nat} {request : ChangeRequest}
  (hj : run.event j = some (.start call (.change request)))
include hj

/-- Without the call a step leads to the same, unless it is for the call. -/
theorem effect_without {n : Nat} (h : Lacks call (run.state n) ((run.without call).state n)) :
    (run.without call).effect n = (run.effect n).filter (·.call != call) := by
  rcases run.step_cases n with ⟨he, -, hf⟩ | ⟨event, he, -⟩
  · have he' : (run.without call).event n = none := by simp [without, he]
    rw [hf, Schedule.effect, he']
    rfl
  · rcases run.kept_or_removed call n event with ⟨apart, real⟩ | removed
    · have same : (run.without call).effect n = run.effect n := by
        rw [Schedule.effect, event_without_of_kept he apart real]
        exact (lacks_of_kept h he apart real).2
      rw [same]
      cases hf : run.effect n with
      | none => rfl
      | some effect =>
        have kept : effect.call ≠ call := fun hc => apart ((call_of_effect hj he hf).2 hc)
        rw [Option.filter_some_pos (by simpa using kept)]
    · rw [Schedule.effect, event_without_of_removed he removed]
      cases hf : run.effect n with
      | none => rfl
      | some effect =>
        have own : effect.call = call := by
          rcases removed with own | idle
          · exact (call_of_effect hj he hf).1 own
          · rw [effect_of_idle he idle] at hf
            cases hf
        rw [Option.filter_some_neg (by simpa using own)]
        rfl

/-- Without the call the same requests are under way, but for those of the call. -/
theorem inFlight_without_succ {n : Nat} (h : Lacks call (run.state n) ((run.without call).state n))
    (same : (run.without call).inFlight n = (run.inFlight n).filter (·.call != call)) :
    (run.without call).inFlight (n + 1) = (run.inFlight (n + 1)).filter (·.call != call) := by
  rw [Schedule.inFlight_succ, Schedule.filter_inFlight_succ, effect_without hj h, same,
    Effect.sent_filter]
  congr 1
  -- what a removed event ends is a request of the call, which is left out on both sides
  refine List.filter_congr fun exchange listed => ?_
  have apart : exchange.call ≠ call := by simpa using (List.mem_filter.1 listed).2
  rcases run.step_cases n with ⟨he, -, -⟩ | ⟨event, he, -⟩
  · have he' : (run.without call).event n = none := by simp [without, he]
    rw [he, he']
  · rcases run.kept_or_removed call n event with ⟨apart', real⟩ | own | idle
    · rw [he, event_without_of_kept he apart' real]
    · rw [he, event_without_of_removed he (.inl own), Event.not_ends_of_call]
      · rfl
      · rw [own]
        exact fun same => apart (Option.some.inj same).symm
    · rw [he, event_without_of_removed he (.inr idle)]
      cases event with
      | dispatch errand => rfl
      | start | receive | resume | resumeChange | drop => cases idle

/-- At every step the run without the call lacks nothing but the call. -/
theorem without_spec (unused : ∀ n answer, run.effect n ≠ some (.answer call (.ok answer)))
    (n : Nat) : Lacks call (run.state n) ((run.without call).state n) ∧
      (run.without call).inFlight n = (run.inFlight n).filter (·.call != call) := by
  induction n with
  | zero =>
    obtain ⟨settings, hm⟩ := run.made
    obtain ⟨-, changes, errands⟩ := initial_of_ofSettings hm
    have fair := run.changes_fair 0
    refine ⟨⟨rfl, rfl, fun _ => rfl, fair, fun _ => idle_of_ofSettings hm, ?_, ?_, ?_⟩, rfl⟩
    · show run.initial.changes.queue = run.initial.changes.queue.filter _
      rw [changes]
      rfl
    · exact fun errand waits _ => waits
    · exact fun pending holds busy => .inl ⟨holds, busy⟩
  | succ n ih =>
    obtain ⟨lacks, same⟩ := ih
    refine ⟨?_, inFlight_without_succ hj lacks same⟩
    rcases run.step_cases n with ⟨he, hs, -⟩ | ⟨event, he, -⟩
    · have he' : (run.without call).event n = none := by simp [without, he]
      rw [hs, Schedule.state, he']
      exact lacks
    · rcases run.kept_or_removed call n event with ⟨apart, real⟩ | removed
      · rw [Schedule.state.eq_2 (run.without call), event_without_of_kept he apart real]
        exact (lacks_of_kept lacks he apart real).1
      · rw [Schedule.state.eq_2 (run.without call), event_without_of_removed he removed]
        exact lacks_of_removed hj lacks he (unused n) removed

/-- The run without a call for a change that never succeeds. -/
def withoutCall (unused : ∀ n answer, run.effect n ≠ some (.answer call (.ok answer))) : Run where
  toSchedule := run.without call
  made := run.made
  clock_mono := run.clock_mono
  once := by
    have begins : ∀ {i who : Nat}, ((run.without call).event i).bind Event.begins? = some who →
        (run.event i).bind Event.begins? = some who := by
      intro i who h
      obtain ⟨event, he, hb⟩ := Option.bind_eq_some_iff.1 h
      rw [(event_of_without he).1]
      exact hb
    intro i j who hi hj
    exact run.once (begins hi) (begins hj)
  heard := by
    intro n exchange reply he
    obtain ⟨he, apart, -⟩ := event_of_without he
    rw [(without_spec hj unused n).2]
    refine List.mem_filter.2 ⟨run.heard he, ?_⟩
    simpa [Event.call?] using apart

end Simulation

/-! ## Failed changes -/

/-- Apart from one call, two runs are the same. -/
structure SameButFor (run other : Run) (call : Nat) : Prop where
  initial : other.initial = run.initial
  clock : other.clock = run.clock
  gone : ∀ n event, other.event n = some event → event.call? ≠ some call
  /-- Nothing happens that did not happen, -/
  happens : ∀ n event, other.event n = some event → run.event n = some event
  /-- and what is not about the call happens in the same steps, unless it did nothing. -/
  kept : ∀ n event, run.event n = some event → event.call? ≠ some call →
    event.isIdle (run.state n) = false → other.event n = some event
  /-- Every other call gets the same answer and sends the same requests in the same steps. -/
  effects : ∀ n, other.effect n = (run.effect n).filter (·.call != call)
  caches : ∀ n key, (other.state n).cache key = (run.state n).cache key

theorem sameButFor_withoutCall {j call : Nat} {request : ChangeRequest}
    (hj : run.event j = some (.start call (.change request)))
    (unused : ∀ n answer, run.effect n ≠ some (.answer call (.ok answer))) :
    run.SameButFor (withoutCall hj unused) call where
  initial := rfl
  clock := rfl
  gone _ _ he := (event_of_without he).2.1
  happens _ _ he := (event_of_without he).1
  kept _ _ he apart real := event_without_of_kept he apart real
  effects n := effect_without hj (without_spec hj unused n).1
  caches n key := (without_spec hj unused n).1.cache key

/-- A change that fails, in whatever way, leaves no trace: its own steps leave the listings as they
are, and there is a run without it that is the same for all others. -/
structure Traceless (run : Run) (call : Nat) : Prop where
  untouched : ∀ n event, run.event n = some event → event.call? = some call →
    ∀ key, (run.state (n + 1)).cache key = (run.state n).cache key
  absent : ∃ other : Run, run.SameButFor other call

theorem traceless_of_failure {j k call : Nat} {request : ChangeRequest} {failure : Failure}
    (hj : run.event j = some (.start call (.change request)))
    (hk : run.effect k = some (.answer call (.error failure))) : run.Traceless call := by
  have unused : ∀ n answer, run.effect n ≠ some (.answer call (.ok answer)) := by
    intro n answer hn
    obtain rfl := answer_of_change_unique hj hk hn
    rw [hk] at hn
    cases hn
  refine ⟨?_, withoutCall hj unused, sameButFor_withoutCall hj unused⟩
  intro n event he own key
  obtain ⟨lacks, -⟩ := without_spec hj unused n
  rw [← (lacks_of_removed hj lacks he (unused n) (.inl own)).cache key, lacks.cache key]

end Run

end Fleet.Client

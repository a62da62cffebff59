/-
The requests of a client: whatever is to be made was posted, whatever is under way was sent, and
both are made for a call that began with an operation that asks for them (`errand_origin`).
-/
import Fleet.Proofs.Client.Run

namespace Fleet

/-- An operation leads to a request. -/
inductive Operation.Makes : Operation → Purpose → Prop where
  | read {operation : Operation} {key : ResourceKey} (reads : operation.reads? = some key) :
    Makes operation (.listing key)
  | refresh {operation : Operation} {key : ResourceKey}
      (refreshes : operation.refreshes? = some key) : Makes operation (.listing key)
  | other {operation : Operation} {purpose : Purpose} (posts : operation.Posts purpose) :
    Makes operation purpose
  | change {request : ChangeRequest} {change : Change} (checked : request.check = .ok change) :
    Makes (.change request) (.change change)

namespace Client

/-- A request is for the endpoint of its purpose, and carries the credential of the moment. -/
theorem request_eq_ok_iff {client : Client} {purpose : Purpose} {request : Request} :
    client.request purpose = .ok request ↔
      ∃ url, client.base.requestUrl purpose.path = .ok url ∧
        request = ⟨purpose.method, url, client.session, purpose.body⟩ := by
  unfold Client.request
  cases client.base.requestUrl purpose.path with
  | error failure => simp [bind, Except.bind]
  | ok url =>
    simp only [bind, Except.bind, pure, Except.pure, Except.ok.injEq, exists_eq_left']
    exact eq_comm

namespace Run

variable {run : Run}

/-! ## Posting and sending -/

/-- All requests go to the same base. -/
theorem base_eq (run : Run) (n : Nat) : (run.state n).base = run.initial.base := by
  induction n with
  | zero => rfl
  | succ n ih =>
    rcases run.step_cases n with ⟨-, hs, -⟩ | ⟨event, -, t⟩
    · rw [hs, ih]
    · obtain ⟨machines, blueprints, changes, changing, errands, hs⟩ := t.frame
      rw [hs, ← ih]

/-- Whatever is to be made was posted at an earlier step. -/
theorem posted_of_errand {n : Nat} {errand : Errand} (h : errand ∈ (run.state n).errands) :
    ∃ b < n, ∃ event, run.event b = some event ∧
      Posted (run.state b) (run.clock b) event errand.call errand.purpose := by
  refine Cache.exists_origin (Q := fun n => errand ∈ (run.state n).errands) ?_ (fun n h => ?_) h
  · obtain ⟨settings, hm⟩ := run.made
    show errand ∉ run.initial.errands
    rw [(initial_of_ofSettings hm).2.2]
    exact List.not_mem_nil
  · rcases run.step_cases n with ⟨-, hs, -⟩ | ⟨event, he, t⟩
    · exact .inl (hs ▸ h)
    · rcases t.errands_cases with hs | ⟨call, purpose, posted, hs⟩ | ⟨_, _, _, hs⟩ | ⟨_, _, hs⟩
      · exact .inl (hs ▸ h)
      · rw [hs, List.mem_append, List.mem_singleton] at h
        rcases h with h | rfl
        · exact .inl h
        · exact .inr ⟨event, he, posted⟩
      -- requests that are let through or given up leave the list, and none is added
      · rw [hs] at h
        exact .inl (List.mem_filter.1 h).1
      · rw [hs] at h
        exact .inl (List.mem_filter.1 h).1

theorem dispatch_of_send {n : Nat} {exchange : Exchange}
    (h : run.effect n = some (.send exchange)) :
    run.event n = some (.dispatch exchange.toErrand) ∧
      exchange.toErrand ∈ (run.state n).errands ∧
      (run.state n).request exchange.purpose = .ok exchange.request := by
  obtain ⟨event, he, t⟩ := run.event_of_effect h
  obtain ⟨rfl, hw, hr⟩ := t.send_cases
  exact ⟨he, hw, hr⟩

/-- A request that waits and can be made is sent when it is let through. -/
theorem send_of_dispatch {n : Nat} {exchange : Exchange}
    (he : run.event n = some (.dispatch exchange.toErrand))
    (waits : exchange.toErrand ∈ (run.state n).errands)
    (made : (run.state n).request exchange.purpose = .ok exchange.request) :
    run.effect n = some (.send exchange) := by
  rw [effect_eq he, step, dispatch, if_pos waits]
  simp only [made]

theorem inFlight_of_send {n : Nat} {exchange : Exchange}
    (h : run.effect n = some (.send exchange)) :
    run.inFlight (n + 1) = exchange :: run.inFlight n := by
  simp only [Schedule.inFlight, (dispatch_of_send h).1, h]

theorem unsent {n : Nat} {event : Event} (he : run.event n = some event)
    (h : ∀ errand, event ≠ .dispatch errand) (exchange : Exchange) :
    run.effect n ≠ some (.send exchange) := by
  intro hf
  rw [(dispatch_of_send hf).1] at he
  exact h _ (Option.some.inj he).symm

theorem inFlight_of_receive {n : Nat} {exchange : Exchange} {reply : Option Reply}
    (he : run.event n = some (.receive exchange reply)) :
    run.inFlight (n + 1) = (run.inFlight n).filter (· ≠ exchange) := by
  simp only [Schedule.inFlight, he]
  split
  · rename_i hf
    exact absurd hf (unsent he (by simp) _)
  · rfl

theorem inFlight_of_drop {n call : Nat} (he : run.event n = some (.drop call)) :
    run.inFlight (n + 1) = (run.inFlight n).filter (·.call != call) := by
  simp only [Schedule.inFlight, he]
  split
  · rename_i hf
    exact absurd hf (unsent he (by simp) _)
  · rfl

theorem inFlight_of_unsent {n : Nat} (quiet : ∀ exchange, run.effect n ≠ some (.send exchange))
    (unheard : ∀ exchange reply, run.event n ≠ some (.receive exchange reply))
    (undropped : ∀ call, run.event n ≠ some (.drop call)) :
    run.inFlight (n + 1) = run.inFlight n := by
  simp only [Schedule.inFlight]

/-- Whatever is under way was sent at an earlier step. -/
theorem sent_of_inFlight {n : Nat} {exchange : Exchange} (h : exchange ∈ run.inFlight n) :
    ∃ p < n, run.effect p = some (.send exchange) := by
  refine Cache.exists_origin (Q := fun n => exchange ∈ run.inFlight n) (by rintro ⟨⟩)
    (fun n h => ?_) h
  by_cases hf : ∃ other, run.effect n = some (.send other)
  · obtain ⟨other, hf⟩ := hf
    rw [inFlight_of_send hf, List.mem_cons] at h
    rcases h with rfl | h
    · exact .inr hf
    · exact .inl h
  · have quiet : ∀ other, run.effect n ≠ some (.send other) := fun other h => hf ⟨other, h⟩
    left
    by_cases hr : ∃ other reply, run.event n = some (.receive other reply)
    · obtain ⟨other, reply, he⟩ := hr
      rw [inFlight_of_receive he] at h
      exact (List.mem_filter.1 h).1
    · by_cases hd : ∃ call, run.event n = some (.drop call)
      · obtain ⟨call, he⟩ := hd
        rw [inFlight_of_drop he] at h
        exact (List.mem_filter.1 h).1
      · rwa [inFlight_of_unsent quiet (fun other reply h => hr ⟨other, reply, h⟩)
          (fun call h => hd ⟨call, h⟩)] at h

/-! ## Origins -/

/-- Whoever waits to make a change has asked for it. -/
theorem change_origin {n : Nat} {pending : PendingChange}
    (h : pending ∈ (run.state n).changes.queue) :
    ∃ j < n, ∃ request, run.event j = some (.start pending.call (.change request)) ∧
      request.check = .ok pending.change := by
  refine Cache.exists_origin (Q := fun n => pending ∈ (run.state n).changes.queue) ?_
    (fun n h => ?_) h
  · obtain ⟨settings, hm⟩ := run.made
    show pending ∉ run.initial.changes.queue
    rw [(initial_of_ofSettings hm).2.1]
    exact List.not_mem_nil
  · rcases run.step_cases n with ⟨-, hs, -⟩ | ⟨event, he, t⟩
    · exact .inl (hs ▸ h)
    · rcases t.mem_changes h with h | ⟨request, rfl, checked⟩
      · exact .inl h
      · exact .inr ⟨request, he, checked⟩

/-- Every request is made for a call whose operation leads to it. -/
theorem errand_origin {n : Nat} {errand : Errand} (h : errand ∈ (run.state n).errands) :
    ∃ j < n, ∃ operation, run.event j = some (.start errand.call operation) ∧
      operation.Makes errand.purpose := by
  obtain ⟨b, hb, event, he, posted⟩ := posted_of_errand h
  generalize errand.purpose = purpose at posted
  cases posted with
  | @listing key fetches =>
    rw [← listing_effect run key he] at fetches
    obtain ⟨j, hj, hbegin⟩ := Cache.Run.begins_of_fetch fetches
    obtain ⟨operation, hs, reads | refreshes⟩ := run.start_of_begins hbegin
    · exact ⟨j, by omega, operation, hs, .read reads⟩
    · exact ⟨j, by omega, operation, hs, .refresh refreshes⟩
  | other starts posts =>
    subst starts
    exact ⟨b, hb, _, he, .other posts⟩
  | change starts checked =>
    subst starts
    exact ⟨b, hb, _, he, .change checked⟩
  | turn holds =>
    obtain ⟨j, hj, request, hs, checked⟩ := change_origin (FairLock.mem_queue_of_holder holds)
    exact ⟨j, by omega, _, hs, .change checked⟩

theorem exchange_origin {n : Nat} {exchange : Exchange} (h : exchange ∈ run.inFlight n) :
    ∃ j < n, ∃ operation, run.event j = some (.start exchange.call operation) ∧
      operation.Makes exchange.purpose := by
  obtain ⟨p, hp, sends⟩ := sent_of_inFlight h
  obtain ⟨j, hj, operation, hs, makes⟩ := errand_origin (dispatch_of_send sends).2.1
  exact ⟨j, by omega, operation, hs, makes⟩

end Run

end Client

end Fleet

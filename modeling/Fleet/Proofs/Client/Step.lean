/-
What a client can do in one step. `Transition` lists the ways with their guards, and every step is
one of them (`step_transition`); what a step sends and what it leaves as it is are read off the
list here.
-/
import Fleet.Proofs.Cache.Step
import Fleet.Proofs.Client.Frame

namespace Fleet

/-! ## Operations on listings -/

namespace Operation

/-- The listing an operation reads. -/
@[simp] def reads? : Operation → Option ResourceKey
  | machines | machineRecords | inventory => some .machines
  | blueprints => some .blueprints
  | _ => none

/-- The listing an operation refreshes. -/
@[simp] def refreshes? : Operation → Option ResourceKey
  | refreshMachines => some .machines
  | refreshBlueprints => some .blueprints
  | _ => none

/-- Whether an operation makes a listing stale at once. -/
@[simp] def spoils (key : ResourceKey) : Operation → Bool
  | setSession _ => true
  | invalidate other => other == key
  | _ => false

/-- What an operation asks for outside the caches, apart from changes. -/
inductive Posts : Operation → Purpose → Prop where
  | blueprint {text : String} {id : ResourceId} (checked : ResourceId.ofText text = .ok id) :
    Posts (.blueprint text) (.blueprint id)
  | value {path : String} : Posts (.value path) (.value path)

/-- An operation is refused. -/
inductive Refused : Operation → Invalid → Prop where
  | blueprint {text : String} {fault : ResourceId.Fault}
      (checked : ResourceId.ofText text = .error fault) : Refused (.blueprint text) fault.toInvalid
  | change {request : ChangeRequest} {reason : Invalid}
      (checked : request.check = .error reason) : Refused (.change request) reason

end Operation

/-- What a reply comes to for a request outside the caches, apart from changes. -/
inductive Exchange.Answers (exchange : Exchange) (reply : Option Reply) :
    Except Failure Answer → Prop where
  | blueprint {id : ResourceId} (purpose : exchange.purpose = .blueprint id) :
    Answers exchange reply (exchange.result (fun reply => reply.blueprint?.map .blueprint) reply)
  | value {path : String} (purpose : exchange.purpose = .value path) :
    Answers exchange reply (exchange.result (fun reply => reply.json?.map .value) reply)

namespace Client

/-! ## The ways to go on -/

/-- The event is one of the cache of a listing, and `left` is the client apart from that. -/
inductive Touches (client : Client) :
    Event → (key : ResourceKey) → Cache.Event (List key.Item) → Client → Prop where
  | read {call : Nat} {operation : Operation} {key : ResourceKey}
      (reads : operation.reads? = some key) :
    Touches client (.start call operation) key (.read call) client
  | refresh {call : Nat} {operation : Operation} {key : ResourceKey}
      (refreshes : operation.refreshes? = some key) :
    Touches client (.start call operation) key (.refresh call) client
  | resume {key : ResourceKey} : Touches client (.resume key) key .resume client
  /-- The reply to the request for the listing has come. -/
  | reply {exchange : Exchange} {reply : Option Reply} {key : ResourceKey}
      (purpose : exchange.purpose = .listing key) :
    Touches client (.receive exchange reply) key (.finish (exchange.outcome key reply)) client
  /-- The request for the listing cannot be made. -/
  | abort {errand : Errand} {failure : Failure} {key : ResourceKey}
      (waits : errand ∈ client.errands) (purpose : errand.purpose = .listing key)
      (unmade : client.request (.listing key) = .error failure) :
    Touches client (.dispatch errand) key (.finish (.error failure)) (client.unpost errand)

/-- The client after an event, and what the event leads to. -/
inductive Transition (client : Client) (now : Nat) :
    Event → Client → Option Effect → Prop where
  | listing {event : Event} {key : ResourceKey} {cacheEvent : Cache.Event (List key.Item)}
      {left : Client} (touches : Touches client event key cacheEvent left) :
    Transition client now event (left.listing key now cacheEvent).1
      (left.listing key now cacheEvent).2
  | invalidate {call : Nat} {key : ResourceKey} :
    Transition client now (.start call (.invalidate key)) (client.invalidate key)
      (some (.answer call (.ok .done)))
  | setSession {call : Nat} {session : Option SessionCookie} :
    Transition client now (.start call (.setSession session)) (client.setSession session)
      (some (.answer call (.ok (.session session.isSome))))
  | peek {call : Nat} :
    Transition client now (.start call .cachedInventory) client
      (some (.answer call (.ok (.cachedInventory client.cachedInventory))))
  /-- What is asked for is refused before any request. -/
  | refuse {call : Nat} {operation : Operation} {reason : Invalid}
      (refused : operation.Refused reason) :
    Transition client now (.start call operation) client
      (some (.answer call (.error (.invalid reason))))
  /-- A call asks for something that is not cached. -/
  | post {call : Nat} {operation : Operation} {purpose : Purpose}
      (posts : operation.Posts purpose) :
    Transition client now (.start call operation) (client.post call purpose) none
  /-- A change asks for its turn. -/
  | claim {call : Nat} {request : ChangeRequest} {change : Change}
      (checked : request.check = .ok change) :
    Transition client now (.start call (.change request)) (client.enterChange ⟨call, change⟩) none
  /-- The change whose turn it is goes on. -/
  | proceed : Transition client now .resumeChange client.resumeChange none
  | send {errand : Errand} {request : Request} (waits : errand ∈ client.errands)
      (made : client.request errand.purpose = .ok request) :
    Transition client now (.dispatch errand) (client.unpost errand) (some (.send ⟨errand, request⟩))
  /-- A request for something that is not cached cannot be made. -/
  | abort {errand : Errand} {failure : Failure} (waits : errand ∈ client.errands)
      (unlisted : ∀ key, errand.purpose ≠ .listing key)
      (unmade : client.request errand.purpose = .error failure) :
    Transition client now (.dispatch errand) ((client.unpost errand).abort now errand failure).1
      (some (.answer errand.call (.error failure)))
  /-- There is no such request to be made. -/
  | idle {errand : Errand} (gone : errand ∉ client.errands) :
    Transition client now (.dispatch errand) client none
  /-- The reply to a request for something that is not cached has come. -/
  | reply {exchange : Exchange} {reply : Option Reply} {result : Except Failure Answer}
      (answers : exchange.Answers reply result) :
    Transition client now (.receive exchange reply) client (some (.answer exchange.call result))
  /-- The reply to the request for a change has come. -/
  | change {exchange : Exchange} {reply : Option Reply} {change : Change}
      (purpose : exchange.purpose = .change change) :
    Transition client now (.receive exchange reply) (client.receiveChange exchange change reply).1
      (some (.answer exchange.call (exchange.result change.decode? reply)))
  | drop {call : Nat} : Transition client now (.drop call) (client.drop call) none

theorem start_transition (client : Client) (now call : Nat) (operation : Operation) :
    Transition client now (.start call operation) (client.start now call operation).1
      (client.start now call operation).2 := by
  cases operation with
  | machines | machineRecords | inventory | blueprints => exact .listing (.read rfl)
  | refreshMachines | refreshBlueprints => exact .listing (.refresh rfl)
  | cachedInventory => exact .peek
  | value path => exact .post .value
  | setSession session => exact .setSession
  | invalidate key => exact .invalidate
  | blueprint text =>
    simp only [start]
    cases h : ResourceId.ofText text with
    | ok id => exact .post (.blueprint h)
    | error fault => exact .refuse (.blueprint h)
  | change request =>
    simp only [start]
    cases h : request.check with
    | ok change => exact .claim h
    | error reason => exact .refuse (.change h)

theorem dispatch_transition (client : Client) (now : Nat) (errand : Errand) :
    Transition client now (.dispatch errand) (client.dispatch now errand).1
      (client.dispatch now errand).2 := by
  unfold dispatch
  by_cases waits : errand ∈ client.errands
  · rw [if_pos waits]
    cases h : client.request errand.purpose with
    | ok request => exact .send waits h
    | error failure =>
      obtain ⟨call, purpose⟩ := errand
      cases purpose with
      | listing key => exact .listing (.abort waits rfl h)
      | blueprint | value | change => exact .abort waits (by simp) h
  · rw [if_neg waits]
    exact .idle waits

theorem receive_transition (client : Client) (now : Nat) (exchange : Exchange)
    (reply : Option Reply) :
    Transition client now (.receive exchange reply) (client.receive now exchange reply).1
      (client.receive now exchange reply).2 := by
  unfold receive
  cases h : exchange.purpose with
  | listing key => exact .listing (.reply h)
  | blueprint id => exact .reply (.blueprint h)
  | value path => exact .reply (.value h)
  | change change =>
    have answered : (client.receiveChange exchange change reply).2 =
        some (.answer exchange.call (exchange.result change.decode? reply)) := by
      unfold receiveChange
      cases exchange.result change.decode? reply <;> rfl
    simp only [answered]
    exact .change h

/-- Every step is one of the ways to go on. -/
theorem step_transition (client : Client) (now : Nat) (event : Event) :
    Transition client now event (client.step now event).1 (client.step now event).2 := by
  cases event with
  | start call operation => exact start_transition client now call operation
  | dispatch errand => exact dispatch_transition client now errand
  | receive exchange reply => exact receive_transition client now exchange reply
  | resume key => exact .listing .resume
  | resumeChange => exact .proceed
  | drop call => exact .drop

/-! ## What a step leaves as it is -/

/-- The credential after an event. -/
def Event.credential (old : Option SessionCookie) : Event → Option SessionCookie
  | .start _ (.setSession session) => session
  | _ => old

section Step

variable {client next : Client} {now : Nat} {event : Event} {effect : Option Effect}

/-- What is sent was to be made. -/
theorem Transition.send_cases {exchange : Exchange}
    (t : Transition client now event next (some (.send exchange))) :
    event = .dispatch exchange.toErrand ∧ exchange.toErrand ∈ client.errands ∧
      client.request exchange.purpose = .ok exchange.request := by
  generalize hf : some (Effect.send exchange) = effect at t
  cases t with
  | @listing _ key cacheEvent left touches =>
    unfold Client.listing at hf
    simp only at hf
    split at hf <;> cases hf
  | send waits made =>
    cases hf
    exact ⟨rfl, waits, made⟩
  | invalidate | setSession | peek | refuse | post | claim | proceed | abort | idle | reply
    | change | drop => cases hf

/-- A step leaves the settings and the base as they are, and the credential unless the session is
replaced. -/
theorem Transition.frame (t : Transition client now event next effect) :
    ∃ machines blueprints changes changing errands, next =
      { client with
        session := event.credential client.session
        machines, blueprints, changes, changing, errands } := by
  cases t with
  | @listing event key cacheEvent left touches =>
    obtain ⟨machines, blueprints, errands, h⟩ := left.listing_frame key now cacheEvent
    have kept : event.credential client.session = client.session := by
      cases touches with
      | @read _ operation _ reads => cases operation <;> first | rfl | cases reads
      | @refresh _ operation _ refreshes => cases operation <;> first | rfl | cases refreshes
      | resume | reply | abort => rfl
    rw [h, kept]
    cases touches <;> exact ⟨_, _, _, _, _, rfl⟩
  | @invalidate call key =>
    obtain ⟨machines, blueprints, h⟩ := client.withCache_frame key (client.cache key).invalidate
    rw [Client.invalidate, h]
    exact ⟨_, _, _, _, _, rfl⟩
  | refuse refused => cases refused <;> exact ⟨_, _, _, _, _, rfl⟩
  | post posts => cases posts <;> exact ⟨_, _, _, _, _, rfl⟩
  | claim checked =>
    unfold enterChange
    split <;> exact ⟨_, _, _, _, _, rfl⟩
  | proceed =>
    unfold resumeChange
    split <;> exact ⟨_, _, _, _, _, rfl⟩
  | @abort errand failure waits unlisted unmade =>
    unfold Client.abort
    cases h : errand.purpose with
    | listing key => exact absurd h (unlisted key)
    | blueprint | value | change => exact ⟨_, _, _, _, _, rfl⟩
  | change purpose =>
    unfold receiveChange
    split <;> exact ⟨_, _, _, _, _, rfl⟩
  | setSession | peek | send | idle | reply | drop => exact ⟨_, _, _, _, _, rfl⟩

/-- Whoever waits to make a change did so before, or asks in this step. -/
theorem Transition.mem_changes (t : Transition client now event next effect)
    {pending : PendingChange} (h : pending ∈ next.changes.queue) :
    pending ∈ client.changes.queue ∨ ∃ request, event = .start pending.call (.change request) ∧
      request.check = .ok pending.change := by
  cases t with
  | @listing event key cacheEvent left touches =>
    obtain ⟨machines, blueprints, errands, hl⟩ := left.listing_frame key now cacheEvent
    rw [hl] at h
    cases touches <;> exact .inl h
  | @invalidate call key =>
    obtain ⟨machines, blueprints, hi⟩ := client.withCache_frame key (client.cache key).invalidate
    rw [Client.invalidate, hi] at h
    exact .inl h
  | refuse | peek | setSession | idle | reply | post | send => exact .inl h
  | @claim call request change checked =>
    have hm : pending ∈ (client.changes.claim ⟨call, change⟩).queue := by
      unfold enterChange at h
      split at h <;> exact h
    rcases FairLock.mem_queue_claim hm with rfl | hm
    · exact .inr ⟨request, rfl, checked⟩
    · exact .inl hm
  | proceed =>
    unfold resumeChange at h
    split at h <;> exact .inl h
  | @abort errand failure waits unlisted unmade =>
    unfold Client.abort at h
    cases hp : errand.purpose with
    | listing key => exact absurd hp (unlisted key)
    | blueprint | value =>
      rw [hp] at h
      exact .inl h
    | change =>
      rw [hp] at h
      exact .inl (FairLock.mem_queue_release h)
  | change purpose =>
    unfold receiveChange at h
    split at h <;> exact .inl (FairLock.mem_queue_release h)
  | drop => exact .inl (FairLock.mem_queue_abandon h)

end Step

end Client

end Fleet

/-
A client of the backend. It caches the two listings, makes one change to blueprints at a time,
and sends the credential of the moment with every request. A change that the backend accepts
makes the cached blueprints stale, and a new session makes both listings stale.

A call begins, and from then on goes forward by events: its turn at a lock, the moment when the
rate lets its request through, a reply. An event leads to a request to send, or to an answer, or
to neither.
-/
import Fleet.Cache.Basic
import Fleet.Client.Exchange
import Fleet.Settings.Basic

namespace Fleet

/-! ## Types -/

/-- A rate that lets requests through. -/
structure Throttle where
  requestsPerSecond : UInt32
  burstSize : UInt32
  positive : requestsPerSecond ≠ 0 ∧ burstSize ≠ 0

/-- A change that waits for its turn or is being made. -/
structure PendingChange where
  call : Nat
  change : Change

/-- A client. -/
structure Client where
  settings : Settings
  base : ApiBase
  throttle : Option Throttle
  session : Option SessionCookie
  machines : Cache (List MachineItem)
  blueprints : Cache (List Blueprint)
  /-- Who may change blueprints. -/
  changes : FairLock PendingChange := {}
  /-- Whether the change whose turn it is is being made. -/
  changing : Bool := false
  /-- The requests that the rate has not let through yet. -/
  errands : List Errand := []

namespace Client

/-- What an event leads to. -/
inductive Effect where
  | send (exchange : Exchange)
  | answer (call : Nat) (result : Except Failure Answer)

/-! ## Making a client -/

/-- The rate of a rate limit; neither of its numbers may be zero. -/
def throttle? (limit : RateLimit) : Except Invalid Throttle :=
  if hr : limit.requestsPerSecond = 0 then
    .error (.field "requests_per_second" "Must be greater than zero")
  else if hb : limit.burstSize = 0 then
    .error (.field "burst_size" "Must be greater than zero")
  else .ok ⟨limit.requestsPerSecond, limit.burstSize, hr, hb⟩

/-- A cache for the stale time of the settings. -/
def emptyCache {α : Type} (settings : Settings) : Cache α :=
  { staleTime := settings.staleTime.toNat * 1000 }

/-- The client for some settings. -/
def ofSettings (settings : Settings) : Except Invalid Client := do
  settings.validate.mapError (·.toInvalid)
  let base ← settings.base.mapError (·.toInvalid)
  let throttle ← settings.rateLimit.mapM throttle?
  let session ← settings.sessionCookie.mapM fun cookie =>
    (SessionCookie.ofText cookie).mapError (·.toInvalid)
  return {
    settings, base, throttle, session
    machines := emptyCache settings
    blueprints := emptyCache settings }

/-- The time from one poll to the next, in milliseconds. -/
def pollInterval (client : Client) : Nat := client.settings.pollInterval.toNat * 1000

/-! ## Requests -/

/-- The request for a purpose, with the credential of the moment. -/
def request (client : Client) (purpose : Purpose) : Except Failure Request := do
  return ⟨purpose.method, ← client.base.requestUrl purpose.path, client.session, purpose.body⟩

/-- The client with one more request to be made. -/
def post (client : Client) (call : Nat) (purpose : Purpose) : Client :=
  { client with errands := client.errands ++ [⟨call, purpose⟩] }

/-- The client without a request that was to be made. -/
def unpost (client : Client) (errand : Errand) : Client :=
  { client with errands := client.errands.filter (· ≠ errand) }

/-! ## Listings -/

/-- The cache of a listing. -/
def cache (client : Client) : (key : ResourceKey) → Cache (List key.Item)
  | .machines => client.machines
  | .blueprints => client.blueprints

/-- The client with another cache of a listing. -/
def withCache (client : Client) : (key : ResourceKey) → Cache (List key.Item) → Client
  | .machines, cache => { client with machines := cache }
  | .blueprints, cache => { client with blueprints := cache }

/-- The client after an event of the cache of a listing: a fetch is a request to be made. -/
def listing (client : Client) (key : ResourceKey) (now : Nat)
    (event : Cache.Event (List key.Item)) : Client × Option Effect :=
  let result := (client.cache key).step now event
  let stored := client.withCache key result.1
  match result.2 with
  | none => (stored, none)
  | some (.answer call outcome) =>
    (stored, some (.answer call (outcome.map (Answer.listing key))))
  | some (.fetch call) => (stored.post call (.listing key), none)

/-- The client with a listing made stale. -/
def invalidate (client : Client) (key : ResourceKey) : Client :=
  client.withCache key (client.cache key).invalidate

/-- The client with another session; both listings become stale. -/
def setSession (client : Client) (session : Option SessionCookie) : Client :=
  ({ client with session }.invalidate .machines).invalidate .blueprints

/-- The inventory of the machine listing that was fetched last. -/
def cachedInventory (client : Client) : Option Inventory :=
  client.machines.peek.map Inventory.ofItems

/-! ## Changes -/

/-- The client after the change whose turn it is has ended. -/
def endChange (client : Client) : Client :=
  { client with changes := client.changes.release, changing := false }

/-- The client makes the change whose turn it is. -/
def beginChange (client : Client) (pending : PendingChange) : Client :=
  { client with changing := true }.post pending.call (.change pending.change)

/-- A checked change asks for its turn, and is made at once if no other one is under way. -/
def enterChange (client : Client) (pending : PendingChange) : Client :=
  let entered := { client with changes := client.changes.claim pending }
  if client.changes.isFree then entered.beginChange pending else entered

/-- The change whose turn it is goes on. -/
def resumeChange (client : Client) : Client :=
  match client.changes.holder, client.changing with
  | some pending, false => client.beginChange pending
  | _, _ => client

/-- The reply to the request for a change has arrived. -/
def receiveChange (client : Client) (exchange : Exchange) (change : Change)
    (reply : Option Reply) : Client × Option Effect :=
  match exchange.result change.decode? reply with
  | .ok answer =>
    ((client.invalidate .blueprints).endChange, some (.answer exchange.call (.ok answer)))
  | .error failure => (client.endChange, some (.answer exchange.call (.error failure)))

/-! ## Calls -/

/-- A call begins. -/
def start (client : Client) (now call : Nat) : Operation → Client × Option Effect
  | .machines | .machineRecords | .inventory => client.listing .machines now (.read call)
  | .refreshMachines => client.listing .machines now (.refresh call)
  | .cachedInventory =>
    (client, some (.answer call (.ok (.cachedInventory client.cachedInventory))))
  | .blueprints => client.listing .blueprints now (.read call)
  | .refreshBlueprints => client.listing .blueprints now (.refresh call)
  | .blueprint id =>
    match ResourceId.ofText id with
    | .ok id => (client.post call (.blueprint id), none)
    | .error fault => (client, some (.answer call (.error (.invalid fault.toInvalid))))
  | .change request =>
    match request.check with
    | .ok change => (client.enterChange ⟨call, change⟩, none)
    | .error reason => (client, some (.answer call (.error (.invalid reason))))
  | .value path => (client.post call (.value path), none)
  | .setSession session =>
    (client.setSession session, some (.answer call (.ok (.session session.isSome))))
  | .invalidate key => (client.invalidate key, some (.answer call (.ok .done)))

/-- The call's request cannot be made. -/
def abort (client : Client) (now : Nat) (errand : Errand) (failure : Failure) :
    Client × Option Effect :=
  match errand.purpose with
  | .listing key => client.listing key now (.finish (.error failure))
  | .blueprint _ | .value _ => (client, some (.answer errand.call (.error failure)))
  | .change _ => (client.endChange, some (.answer errand.call (.error failure)))

/-- The rate lets a request through. -/
def dispatch (client : Client) (now : Nat) (errand : Errand) : Client × Option Effect :=
  if errand ∈ client.errands then
    match client.request errand.purpose with
    | .ok request => (client.unpost errand, some (.send ⟨errand, request⟩))
    | .error failure => (client.unpost errand).abort now errand failure
  else (client, none)

/-- The reply to a request has arrived, or it is certain that none will. -/
def receive (client : Client) (now : Nat) (exchange : Exchange) (reply : Option Reply) :
    Client × Option Effect :=
  match exchange.purpose with
  | .listing key => client.listing key now (.finish (exchange.outcome key reply))
  | .blueprint _ =>
    let result := exchange.result (fun reply => reply.blueprint?.map .blueprint) reply
    (client, some (.answer exchange.call result))
  | .value _ =>
    let result := exchange.result (fun reply => reply.json?.map .value) reply
    (client, some (.answer exchange.call result))
  | .change change => client.receiveChange exchange change reply

/-- A call is dropped wherever it waits. -/
def drop (client : Client) (call : Nat) : Client :=
  let isGone := fun pending : PendingChange => pending.call == call
  { client with
    machines := client.machines.drop call
    blueprints := client.blueprints.drop call
    changes := client.changes.abandon isGone
    changing := client.changing && !client.changes.holder.any isGone
    errands := client.errands.filter (·.call != call) }

/-! ## Runs -/

/-- What can happen to a client. -/
inductive Event where
  | start (call : Nat) (operation : Operation)
  | dispatch (errand : Errand)
  | receive (exchange : Exchange) (reply : Option Reply)
  | resume (key : ResourceKey)
  | resumeChange
  | drop (call : Nat)

/-- The client after an event, and what the event leads to. -/
def step (client : Client) (now : Nat) : Event → Client × Option Effect
  | .start call operation => client.start now call operation
  | .dispatch errand => client.dispatch now errand
  | .receive exchange reply => client.receive now exchange reply
  | .resume key => client.listing key now .resume
  | .resumeChange => (client.resumeChange, none)
  | .drop call => (client.drop call, none)

end Client

end Fleet

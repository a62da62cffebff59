/-
What a client can be asked to do, what it asks the backend for, and what it gives back.
-/
import Fleet.Blueprint.Draft
import Fleet.Client.ApiBase
import Fleet.Client.Listing
import Fleet.Client.Reply
import Fleet.Client.ResourceId
import Fleet.Inventory.Basic
import Fleet.Session.Cookie

namespace Fleet

/-! ## Operations -/

/-- A change to blueprints as it is asked for. -/
inductive ChangeRequest where
  | create (draft : Draft)
  | update (id : String) (draft : Draft)
  | delete (id : String)

/-- What a client can be asked to do. -/
inductive Operation where
  | machines
  | refreshMachines
  | machineRecords
  | inventory
  /-- The inventory of the listing that was fetched last, without a request. -/
  | cachedInventory
  | blueprints
  | refreshBlueprints
  | blueprint (id : String)
  | change (request : ChangeRequest)
  /-- The JSON at a path of the backend. -/
  | value (path : String)
  | setSession (cookie : Option SessionCookie)
  | invalidate (key : ResourceKey)

/-- What an operation gives. -/
inductive Answer where
  | machines (items : List MachineItem)
  | records (records : List MachineRecord)
  | inventory (inventory : Inventory)
  | cachedInventory (inventory : Option Inventory)
  | blueprints (list : List Blueprint)
  | blueprint (blueprint : Blueprint)
  | value (value : Json)
  /-- Whether there is a session. -/
  | session (present : Bool)
  | done

/-- The answer to a call that asked for a listing. -/
def Answer.listing : (key : ResourceKey) → List key.Item → Answer
  | .machines => machines
  | .blueprints => blueprints

/-- What an operation gives of an answer: a machine listing in the form that was asked for. -/
def Operation.present (operation : Operation) (answer : Answer) : Answer :=
  match operation, answer with
  | machineRecords, .machines items => .records (items.map normalize)
  | inventory, .machines items => .inventory (Inventory.ofItems items)
  | _, answer => answer

/-! ## Requests -/

/-- The methods of requests. -/
inductive Method where
  | get
  | post
  | put
  | delete
deriving DecidableEq, Repr

/-- The name of a method. -/
def Method.name : Method → String
  | get => "GET"
  | post => "POST"
  | put => "PUT"
  | delete => "DELETE"

/-- A request. -/
structure Request where
  method : Method
  url : Url
  cookie : Option SessionCookie
  body : Option Draft
deriving DecidableEq

/-- The path of one blueprint. -/
def blueprintPath (id : ResourceId) : String := s!"{ResourceKey.blueprints.path}/{id.text}"

/-! ## Changes to blueprints -/

/-- A checked change to the stored blueprints. -/
inductive Change where
  | create (draft : Draft)
  | update (id : ResourceId) (draft : Draft)
  | delete (id : ResourceId)
deriving DecidableEq

/-- The change that is asked for: its id is checked first, then its draft. -/
def ChangeRequest.check : ChangeRequest → Except Invalid Change
  | create draft => do return .create (← draft.validate.mapError (·.toInvalid))
  | update id draft => do
    let id ← (ResourceId.ofText id).mapError (·.toInvalid)
    return .update id (← draft.validate.mapError (·.toInvalid))
  | delete id => do return .delete (← (ResourceId.ofText id).mapError (·.toInvalid))

namespace Change

/-- The method of the request for a change. -/
def method : Change → Method
  | create _ => .post
  | update _ _ => .put
  | delete _ => .delete

/-- The path of the request for a change. -/
def path : Change → String
  | create _ => ResourceKey.blueprints.path
  | update id _ | delete id => blueprintPath id

/-- The body of the request for a change. -/
def body : Change → Option Draft
  | create draft | update _ draft => some draft
  | delete _ => none

/-- What an accepted reply says of a change; the body counts for nothing after a deletion. -/
def decode? : Change → Reply → Option Answer
  | create _, reply | update _ _, reply => reply.blueprint?.map .blueprint
  | delete _, _ => some .done

end Change

end Fleet

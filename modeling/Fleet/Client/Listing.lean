/-
The listings of the backend. A listing is an object with the entries in an array under a known
key; entries that do not decode are skipped, and a body of any other shape is an empty listing.
-/
import Fleet.Blueprint.Record
import Fleet.Machine.Item

namespace Fleet

/-- The listings of the backend. -/
inductive ResourceKey where
  | machines
  | blueprints
deriving DecidableEq, Repr

namespace ResourceKey

/-- The name of a listing. -/
def name : ResourceKey → String
  | machines => "machines"
  | blueprints => "blueprints"

/-- What a listing is a list of. -/
abbrev Item : ResourceKey → Type
  | machines => MachineItem
  | blueprints => Blueprint

/-- The path of a listing. -/
def path : ResourceKey → String
  | machines => "/v1/machines"
  | blueprints => "/v1/blueprints"

end ResourceKey

namespace Listing

/-- The entries under a key that decode, in their order. -/
def entries {α : Type} (decode? : Json → Option α) (body : Json) (key : String) : List α :=
  (((body.get? key).bind Json.items?).getD []).filterMap decode?

/-- The machines of a machine listing. -/
def machines (body : Json) : List MachineItem := entries MachineItem.ofJson? body "machines"

/-- The blueprints of a blueprint listing, by name; those of one name keep their order. -/
def blueprints (body : Json) : List Blueprint :=
  (entries Blueprint.ofJson? body "blueprints").mergeSort fun a b => decide (a.name ≤ b.name)

/-- What a body says of a listing. -/
def decode : (key : ResourceKey) → Json → List key.Item
  | .machines => machines
  | .blueprints => blueprints

end Listing

end Fleet

/-
An inventory: the records of one machine listing, in the order of the listing, with the counts,
the site choices and the look-ups a display offers over them.
-/
import Fleet.Inventory.Counts
import Fleet.Inventory.Filter
import Fleet.Machine.Normalize

namespace Fleet

/-- The records of one machine listing. -/
structure Inventory where
  records : List MachineRecord := []
deriving DecidableEq, Inhabited

namespace Inventory

/-- The inventory of a listing. -/
def ofItems (items : List MachineItem) : Inventory := ⟨items.map normalize⟩

/-- The number of records. -/
def size (inventory : Inventory) : Nat := inventory.records.length

/-- Whether there are no records. -/
def isEmpty (inventory : Inventory) : Bool := inventory.records.isEmpty

/-- How many records have each status. -/
def counts (inventory : Inventory) : StatusCounts := StatusCounts.tally inventory.records

/-- The sites of the records, trimmed, each once and in order. -/
def sites (inventory : Inventory) : List String :=
  Text.ascending (inventory.records.filterMap fun record => record.site.bind Text.nonBlank?)

/-- The records that pass a filter, in their order. -/
def filter (inventory : Inventory) (f : InventoryFilter) : List MachineRecord :=
  f.select inventory.records

/-- The first record with an id. -/
def find? (inventory : Inventory) (id : String) : Option MachineRecord :=
  inventory.records.find? (·.id == id)

end Inventory

end Fleet

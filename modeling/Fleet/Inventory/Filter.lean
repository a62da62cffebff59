/-
Selecting records. A filter has a clause for the status, one for the site and one for the text
searched for; a record passes when it passes every clause that is set. The search ignores case:
it looks for the lower-cased term in the lower-cased values of the record, with a blank between
one value and the next.
-/
import Fleet.Machine.Record
import Fleet.Text.Search

namespace Fleet

/-- What records are looked for; a clause that is not set lets every record through. -/
structure InventoryFilter where
  search : String := ""
  status : Option MachineStatus := none
  site : Option String := none
deriving DecidableEq, Repr

/-- The values a search looks into, in order; absent and empty ones are left out. -/
def MachineRecord.searched (record : MachineRecord) : List String :=
  ([some record.hostname, record.displayName, record.serial, record.os, record.blueprint,
    some record.mac, record.ip, record.owner, record.site, record.rack].reduceOption ++
      record.tags).filter (!·.isEmpty)

/-- The text a search looks into. -/
def MachineRecord.searchText (record : MachineRecord) : List Char :=
  Text.lowerChars ([' '].intercalate (record.searched.map String.toList))

namespace InventoryFilter

/-- The term that is looked for: the search text trimmed, in lower case. -/
def term (filter : InventoryFilter) : List Char :=
  Text.lowerChars (Text.trim filter.search).toList

/-- Whether the record has the status asked for. -/
def passesStatus (filter : InventoryFilter) (record : MachineRecord) : Bool :=
  filter.status.all (record.status == ·)

/-- Whether the record stands at the site asked for. -/
def passesSite (filter : InventoryFilter) (record : MachineRecord) : Bool :=
  filter.site.all fun site => record.site == some site

/-- Whether the term occurs in the record. -/
def passesSearch (filter : InventoryFilter) (record : MachineRecord) : Bool :=
  filter.term.isEmpty || Text.occurs filter.term record.searchText

/-- Whether the record passes every clause. -/
def passes (filter : InventoryFilter) (record : MachineRecord) : Bool :=
  filter.passesStatus record && filter.passesSite record && filter.passesSearch record

/-- The records that pass, in their order. -/
def select (filter : InventoryFilter) (records : List MachineRecord) : List MachineRecord :=
  records.filter filter.passes

end InventoryFilter

end Fleet

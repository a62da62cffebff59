/-
Machines as they are displayed: one flat record per listing entry, and its JSON form, in which
absent properties are left out.
-/
import Fleet.Json.Fields
import Fleet.Machine.Status

namespace Fleet

/-! ## Types -/

/-- What a machine is made of. -/
structure Hardware where
  cpu : Option String := none
  memory : Option String := none
  storage : Option String := none
  bmc : Option String := none
deriving DecidableEq, Inhabited

/-- A network interface. -/
structure Network where
  interface : String
  mac : String
  ip : Option String := none
  vlan : Option String := none
deriving DecidableEq, Inhabited

/-- A run in a machine's history. -/
structure RunSummary where
  id : String
  blueprint : Option String := none
  status : RunStatus
  startedAt : Option String := none
  finishedAt : Option String := none
deriving DecidableEq, Inhabited

/-- One reported fact for display. -/
structure FactLine where
  label : String
  value : String
  updatedAt : Option String := none
deriving DecidableEq, Inhabited

/-- A machine flattened for display. -/
structure MachineRecord where
  id : String
  mac : String
  serial : Option String := none
  hostname : String
  displayName : Option String := none
  status : MachineStatus
  ip : Option String := none
  os : Option String := none
  blueprint : Option String := none
  site : Option String := none
  rack : Option String := none
  position : Option String := none
  owner : Option String := none
  notes : Option String := none
  tags : List String := []
  lastCheckIn : Option String := none
  uptimeHours : Option Binary64 := none
  hardware : Hardware := {}
  networks : List Network := []
  runs : List RunSummary := []
  facts : List FactLine := []
deriving DecidableEq, Inhabited

/-! ## JSON form -/

open Json (ofFields ofText ofText?)

/-- Writes the hardware. -/
def Hardware.toJson (hardware : Hardware) : Json :=
  ofFields [
    ("cpu", ofText? hardware.cpu),
    ("memory", ofText? hardware.memory),
    ("storage", ofText? hardware.storage),
    ("bmc", ofText? hardware.bmc)]

/-- Writes a network interface. -/
def Network.toJson (network : Network) : Json :=
  ofFields [
    ("interface", ofText network.interface),
    ("mac", ofText network.mac),
    ("ip", ofText? network.ip),
    ("vlan", ofText? network.vlan)]

/-- Writes a run. -/
def RunSummary.toJson (run : RunSummary) : Json :=
  ofFields [
    ("id", ofText run.id),
    ("blueprint", ofText? run.blueprint),
    ("status", ofText run.status.name),
    ("startedAt", ofText? run.startedAt),
    ("finishedAt", ofText? run.finishedAt)]

/-- Writes a fact. -/
def FactLine.toJson (line : FactLine) : Json :=
  ofFields [
    ("label", ofText line.label),
    ("value", ofText line.value),
    ("updatedAt", ofText? line.updatedAt)]

/-- Writes a record. -/
def MachineRecord.toJson (record : MachineRecord) : Json :=
  ofFields [
    ("id", ofText record.id),
    ("mac", ofText record.mac),
    ("serial", ofText? record.serial),
    ("hostname", ofText record.hostname),
    ("displayName", ofText? record.displayName),
    ("status", ofText record.status.name),
    ("ip", ofText? record.ip),
    ("os", ofText? record.os),
    ("blueprint", ofText? record.blueprint),
    ("site", ofText? record.site),
    ("rack", ofText? record.rack),
    ("position", ofText? record.position),
    ("owner", ofText? record.owner),
    ("notes", ofText? record.notes),
    ("tags", some (.array (record.tags.map .text))),
    ("lastCheckIn", ofText? record.lastCheckIn),
    ("uptimeHours", record.uptimeHours.map fun x => .number (.binary x)),
    ("hardware", some record.hardware.toJson),
    ("networks", some (.array (record.networks.map Network.toJson))),
    ("runs", some (.array (record.runs.map RunSummary.toJson))),
    ("facts", some (.array (record.facts.map FactLine.toJson)))]

end Fleet

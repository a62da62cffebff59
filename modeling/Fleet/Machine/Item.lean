/-
Entries of the machine listing as the backend sends them: a machine with its opaque profile,
the latest facts its agent reported, and its most recent runs. Everything but the machine itself
may be missing, so one odd entry never fails a whole listing.
-/
import Fleet.Json.Fields

namespace Fleet

/-! ## Types -/

/-- An enrolled machine. -/
structure Machine where
  id : String := ""
  mac : String := ""
  serial : Option String := none
  /-- Opaque and of any shape. -/
  profile : Option Json := none
  createdAt : String := ""
  updatedAt : String := ""
deriving DecidableEq, Inhabited

/-- The facts a machine's agent reported last. -/
structure Fact where
  id : String := ""
  /-- Free-form, in the order the agent reported it. -/
  snapshot : Option Json := none
  createdAt : String := ""
deriving DecidableEq, Inhabited

/-- One execution of a blueprint on a machine. -/
structure Run where
  id : String := ""
  machineId : String := ""
  blueprintId : String := ""
  /-- Free text. -/
  status : String := ""
  startedAt : Option String := none
  finishedAt : Option String := none
  logs : Option String := none
deriving DecidableEq, Inhabited

/-- An entry of the machine listing. -/
structure MachineItem where
  machine : Machine
  /-- The status the backend derived. -/
  status : Option String := none
  latestFact : Option Fact := none
  /-- Newest first. -/
  recentRuns : Option (List Run) := none
deriving DecidableEq, Inhabited

/-! ## Decoding -/

open Json (defaulted? optional? required? fields? text? listOf?)

/-- Reads a machine; every field may be left out. -/
def Machine.ofJson? (value : Json) : Option Machine := do
  let fields ← value.fields? ["id", "mac", "serial", "profile", "created_at", "updated_at"]
  return {
    id := ← defaulted? fields "id" "" text?
    mac := ← defaulted? fields "mac" "" text?
    serial := ← optional? fields "serial" text?
    profile := ← optional? fields "profile" some
    createdAt := ← defaulted? fields "created_at" "" text?
    updatedAt := ← defaulted? fields "updated_at" "" text? }

/-- Reads a fact; every field may be left out. -/
def Fact.ofJson? (value : Json) : Option Fact := do
  let fields ← value.fields? ["id", "snapshot", "created_at"]
  return {
    id := ← defaulted? fields "id" "" text?
    snapshot := ← optional? fields "snapshot" some
    createdAt := ← defaulted? fields "created_at" "" text? }

/-- Reads a run; every field may be left out. -/
def Run.ofJson? (value : Json) : Option Run := do
  let fields ← value.fields?
    ["id", "machine_id", "blueprint_id", "status", "started_at", "finished_at", "logs"]
  return {
    id := ← defaulted? fields "id" "" text?
    machineId := ← defaulted? fields "machine_id" "" text?
    blueprintId := ← defaulted? fields "blueprint_id" "" text?
    status := ← defaulted? fields "status" "" text?
    startedAt := ← optional? fields "started_at" text?
    finishedAt := ← optional? fields "finished_at" text?
    logs := ← optional? fields "logs" text? }

/-- Reads a listing entry; only the machine is required. -/
def MachineItem.ofJson? (value : Json) : Option MachineItem := do
  let fields ← value.fields? ["machine", "status", "latest_fact", "recent_runs"]
  return {
    machine := ← required? fields "machine" Machine.ofJson?
    status := ← optional? fields "status" text?
    latestFact := ← optional? fields "latest_fact" Fact.ofJson?
    recentRuns := ← optional? fields "recent_runs" (listOf? Run.ofJson?) }

/-! ## Encoding -/

open Json (ofFields ofText ofText?)

/-- Writes a machine; absent optional fields are left out. -/
def Machine.toJson (machine : Machine) : Json :=
  ofFields [
    ("id", ofText machine.id),
    ("mac", ofText machine.mac),
    ("serial", ofText? machine.serial),
    ("profile", machine.profile),
    ("created_at", ofText machine.createdAt),
    ("updated_at", ofText machine.updatedAt)]

/-- Writes a fact; an absent snapshot is left out. -/
def Fact.toJson (fact : Fact) : Json :=
  ofFields [
    ("id", ofText fact.id),
    ("snapshot", fact.snapshot),
    ("created_at", ofText fact.createdAt)]

/-- Writes a run; absent optional fields are left out. -/
def Run.toJson (run : Run) : Json :=
  ofFields [
    ("id", ofText run.id),
    ("machine_id", ofText run.machineId),
    ("blueprint_id", ofText run.blueprintId),
    ("status", ofText run.status),
    ("started_at", ofText? run.startedAt),
    ("finished_at", ofText? run.finishedAt),
    ("logs", ofText? run.logs)]

/-- Writes a listing entry; absent optional fields are left out. -/
def MachineItem.toJson (item : MachineItem) : Json :=
  ofFields [
    ("machine", some item.machine.toJson),
    ("status", ofText? item.status),
    ("latest_fact", item.latestFact.map Fact.toJson),
    ("recent_runs", item.recentRuns.map fun runs => .array (runs.map Run.toJson))]

end Fleet

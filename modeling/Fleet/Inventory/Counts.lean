/-
How many records have each status. Every status has a bucket, and each record adds one to the
bucket of its status, so the buckets add up to the number of records.
-/
import Fleet.Machine.Record

namespace Fleet

/-- A number of records for each status. -/
structure StatusCounts where
  ready : Nat := 0
  provisioning : Nat := 0
  error : Nat := 0
  offline : Nat := 0
  maintenance : Nat := 0
  unknown : Nat := 0
deriving DecidableEq, Repr

namespace StatusCounts

/-- The number in the bucket of a status. -/
def get (counts : StatusCounts) : MachineStatus → Nat
  | .ready => counts.ready
  | .provisioning => counts.provisioning
  | .error => counts.error
  | .offline => counts.offline
  | .maintenance => counts.maintenance
  | .unknown => counts.unknown

/-- One more record of a status. -/
def add (counts : StatusCounts) : MachineStatus → StatusCounts
  | .ready => { counts with ready := counts.ready + 1 }
  | .provisioning => { counts with provisioning := counts.provisioning + 1 }
  | .error => { counts with error := counts.error + 1 }
  | .offline => { counts with offline := counts.offline + 1 }
  | .maintenance => { counts with maintenance := counts.maintenance + 1 }
  | .unknown => { counts with unknown := counts.unknown + 1 }

/-- The counts of a list of records. -/
def tally (records : List MachineRecord) : StatusCounts :=
  records.foldl (fun counts record => counts.add record.status) {}

/-- The buckets in display order. -/
def buckets (counts : StatusCounts) : List (MachineStatus × Nat) :=
  MachineStatus.all.map fun status => (status, counts.get status)

/-- The sum of all buckets. -/
def total (counts : StatusCounts) : Nat :=
  counts.buckets.foldl (fun n bucket => n + bucket.2) 0

/-- Writes the counts as an object with one member for each status. -/
def toJson (counts : StatusCounts) : Json :=
  .object (counts.buckets.map fun (status, n) => (status.name, .number (.integer n)))

theorem get_add (counts : StatusCounts) (s t : MachineStatus) :
    (counts.add s).get t = counts.get t + if s = t then 1 else 0 := by
  cases s <;> cases t <;> rfl

end StatusCounts

end Fleet

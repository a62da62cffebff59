/-
The closed sets of statuses of machines and runs. Free text is classified by an exact table
after trimming and lower-casing; whatever the table does not hold is `unknown`.
-/
import Fleet.Text.Blank
import Fleet.Text.Case

namespace Fleet

/-- The status of a machine, in display order. -/
inductive MachineStatus where
  | ready
  | provisioning
  | error
  | offline
  | maintenance
  | unknown
deriving DecidableEq, Repr, Inhabited

namespace MachineStatus

/-- Every status, in display order. -/
def all : List MachineStatus := [ready, provisioning, error, offline, maintenance, unknown]

/-- The name of a status. -/
def name : MachineStatus → String
  | ready => "ready"
  | provisioning => "provisioning"
  | error => "error"
  | offline => "offline"
  | maintenance => "maintenance"
  | unknown => "unknown"

/-- The words that stand for each status but `unknown`. -/
def words : List (String × MachineStatus) := [
  ("ready", ready), ("active", ready), ("online", ready), ("healthy", ready),
  ("available", ready),
  ("provisioning", provisioning), ("provisioned", provisioning), ("installing", provisioning),
  ("deploying", provisioning), ("pending", provisioning),
  ("error", error), ("failed", error),
  ("offline", offline), ("down", offline), ("unreachable", offline),
  ("maintenance", maintenance)]

/-- The status a free text stands for. -/
def classify (raw : String) : MachineStatus :=
  (words.lookup (Text.lower (Text.trim raw))).getD unknown

end MachineStatus

/-- The status of a run. -/
inductive RunStatus where
  | running
  | succeeded
  | failed
  | unknown
deriving DecidableEq, Repr, Inhabited

namespace RunStatus

/-- The name of a status. -/
def name : RunStatus → String
  | running => "running"
  | succeeded => "succeeded"
  | failed => "failed"
  | unknown => "unknown"

/-- The words that stand for each status but `unknown`. -/
def words : List (String × RunStatus) := [
  ("running", running),
  ("success", succeeded), ("succeeded", succeeded), ("completed", succeeded),
  ("failed", failed), ("failure", failed), ("error", failed), ("errored", failed)]

/-- The status a free text stands for. -/
def classify (raw : String) : RunStatus :=
  (words.lookup (Text.lower (Text.trim raw))).getD unknown

end RunStatus

end Fleet

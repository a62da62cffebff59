/-
Polling the machine listing. Every poll publishes one state: the latest inventory that was
fetched, the error of the last poll, and whether any poll has succeeded. A poll that falls due is
made as soon as the one before it has ended; if that is late, the polls after it are counted from
then, so that late polls never come in a burst.

One event is all that happens between two awaits: a poll falls due and its fetch begins, or a fetch
ends and its state is published at once. A poller that is stopped does nothing more, wherever it
waits.
-/
import Fleet.Failure
import Fleet.Inventory.Basic

namespace Fleet

/-! ## Published state -/

/-- What a poller publishes. -/
structure InventoryUpdate where
  /-- Of the latest poll that succeeded. -/
  inventory : Inventory := {}
  /-- The words for the failure of the last poll, if it failed. -/
  error : Option String := none
  /-- Whether any poll has succeeded. -/
  loaded : Bool := false
deriving DecidableEq

/-- The state after one more poll. -/
def InventoryUpdate.after (previous : InventoryUpdate) :
    Except Failure (List MachineItem) → InventoryUpdate
  | .ok items => ⟨Inventory.ofItems items, none, true⟩
  | .error failure => { previous with error := some failure.message }

/-! ## Schedule -/

/-- How late a poll may be, in milliseconds, without moving the ones after it. -/
def pollTolerance : Nat := 5

/-- When the next poll is due after one that was due at `due` and was made at `made`. -/
def nextPoll (interval due made : Nat) : Nat :=
  if made ≤ due + pollTolerance then due + interval else made + interval

/-! ## The poller -/

/-- What a poller is doing. -/
inductive Poller.Phase where
  | waiting
  | fetching
  | stopped
deriving DecidableEq, Repr

/-- A poller; times are in milliseconds. -/
structure Poller where
  interval : Nat
  /-- When the next poll is due. -/
  due : Nat
  phase : Poller.Phase := .waiting
  update : InventoryUpdate := {}
  /-- How many states have been published. -/
  published : Nat := 0
  /-- How many polls have begun. -/
  polls : Nat := 0

namespace Poller

/-- A poller whose first poll is due at once. -/
def start (interval now : Nat) : Poller := { interval, due := now }

/-- Whether a poll is to be made. -/
def isDue (poller : Poller) (now : Nat) : Bool := poller.phase == .waiting && poller.due ≤ now

/-- The poller after it begins the poll that is due. -/
def beginPoll (poller : Poller) (now : Nat) : Poller :=
  if poller.isDue now then
    { poller with
      phase := .fetching
      due := nextPoll poller.interval poller.due now
      polls := poller.polls + 1 }
  else poller

/-- The poller after its poll has ended and the new state is published. -/
def endPoll (poller : Poller) (outcome : Except Failure (List MachineItem)) : Poller :=
  if poller.phase = .fetching then
    { poller with
      phase := .waiting
      update := poller.update.after outcome
      published := poller.published + 1 }
  else poller

/-- The poller after it is stopped, in whatever phase it was. -/
def stop (poller : Poller) : Poller := { poller with phase := .stopped }

/-- Whether the poller has not been stopped. -/
def isRunning (poller : Poller) : Bool := poller.phase != .stopped

end Poller

end Fleet

/-
What a poller publishes. The published state tells of the polls that have ended: the inventory of
the last one that succeeded, the failure of the last one if it failed, and whether any succeeded
(`InventoryUpdate.telling`). Every poll that ends publishes one state, nothing else does, and after
the poller is stopped nothing changes any more, whether it waits or fetches when it is stopped
(`published_states`).
-/
import Fleet.Proofs.Poller.Run

namespace Fleet

/-! ## Telling of polls -/

namespace Poller

section Step

variable {poller next : Poller} {now : Nat} {event : Event} {ended? : Option Outcome}
  (t : Transition poller now event next ended?)
include t

end Step

/-! ## Runs -/

namespace Run

variable {run : Run} {m n : Nat}

/-- A poll that is due and gets a reply at the next step. -/
theorem answered {outcome : Outcome} (waiting : (run.state n).phase = .waiting)
    (due : (run.state n).due ≤ run.clock n) (tick : run.event n = some .tick)
    (reply : run.event (n + 1) = some (.reply outcome)) :
    (run.state (n + 2)).phase = .waiting ∧
      (run.state (n + 2)).due = nextPoll run.interval (run.state n).due (run.clock n) ∧
      run.ended (n + 2) = outcome :: run.ended n := by
  obtain ⟨_, first, hh⟩ := transition tick
  obtain ⟨_, second, hh'⟩ := transition reply
  generalize run.state (n + 1) = fetching at first second
  generalize run.state (n + 1 + 1) = after at second
  cases first with
  | passes undue => exact absurd due (not_le.2 (undue waiting))
  | begins =>
    cases second with
    | ignores _ idle => exact absurd rfl idle
    | ends => exact ⟨rfl, by rw [interval_state], by rw [hh', hh]; rfl⟩

def lost : Failure := .connection "no route"

end Run

end Poller

end Fleet

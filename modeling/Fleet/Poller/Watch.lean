/-
Watching a poller in virtual time. The poller's fetches follow a script; whenever the watcher
waits, the poller goes on until it waits itself. A watcher knows how many states it has seen.
-/
import Fleet.Poller.Basic

namespace Fleet.Poller

/-- How long a fetch takes, and how it ends. -/
structure Fetch where
  duration : Nat
  outcome : Except Failure (List MachineItem)

/-- A poller that is watched: the clock, the fetches to come, the fetch that runs with the time
of its end, and how many states the watcher has seen. -/
structure Watch where
  clock : Nat
  poller : Poller
  script : List Fetch
  running : Option (Nat × Except Failure (List MachineItem)) := none
  seen : Nat := 0

namespace Watch

/-- The fetch after the end of the script. -/
def exhausted : Fetch := ⟨0, .error (.connection "script exhausted")⟩

/-- A watch that starts with the poller. -/
def start (interval : Nat) (script : List Fetch) : Watch :=
  { clock := 0, poller := .start interval 0, script }

/-- Whether a state was published that the watcher has not seen. -/
def hasUnseen (watch : Watch) : Bool := watch.seen < watch.poller.published

/-- When the poller goes on next. -/
def nextTime? (watch : Watch) : Option Nat :=
  match watch.poller.phase, watch.running with
  | .waiting, _ => some (max watch.clock watch.poller.due)
  | .fetching, some (time, _) => some time
  | _, _ => none

/-- The watch after the poller has gone on at a time: a poll begins or ends. -/
def proceed (watch : Watch) (time : Nat) : Watch :=
  match watch.running with
  | some (_, outcome) =>
    { watch with clock := time, poller := watch.poller.endPoll outcome, running := none }
  | none =>
    let fetch := watch.script.head?.getD exhausted
    { watch with
      clock := time
      poller := watch.poller.beginPoll time
      script := watch.script.tail
      running := some (time + fetch.duration, fetch.outcome) }

/-- The watch after all the poller does up to a time, in at most so many steps. -/
def proceedUntil (time : Nat) : Nat → Watch → Watch
  | 0, watch => watch
  | fuel + 1, watch =>
    match watch.nextTime? with
    | some next =>
      if next ≤ time then proceedUntil time fuel (watch.proceed next) else watch
    | none => watch

/-- Enough steps for all the poller does up to a time: every poll moves the next one on. -/
def stepsUntil (watch : Watch) (time : Nat) : Nat := 2 * (time + 1 - watch.poller.due) + 2

/-- The watch at a time. -/
def waitUntil (watch : Watch) (time : Nat) : Watch :=
  { proceedUntil time (watch.stepsUntil time) watch with clock := time }

/-- The watch after the poller has done all it does without waiting. -/
def idle (watch : Watch) : Watch :=
  proceedUntil watch.clock (watch.stepsUntil watch.clock) watch

/-- The watch when a state was published that the watcher has not seen, in at most so many steps.
-/
def awaitWithin : Nat → Watch → Watch
  | 0, watch => watch
  | fuel + 1, watch =>
    if watch.hasUnseen then watch.idle
    else
      match watch.nextTime? with
      | some next => awaitWithin fuel (watch.proceed next)
      | none => watch

/-- The watch when the watcher has been told of a state it had not seen, and whether it was: a
poller that was stopped has nothing more to tell. -/
def changed (watch : Watch) : Watch × Bool :=
  if watch.hasUnseen then ({ watch with seen := watch.poller.published }, true)
  else
    let woken := awaitWithin 3 watch
    ({ woken with seen := woken.poller.published }, woken.hasUnseen)

/-- The watch after the poller is stopped. -/
def stop (watch : Watch) : Watch := { watch with poller := watch.poller.stop, running := none }

end Watch

end Fleet.Poller

/-
The cached value of one listing. A value is fresh while it is younger than the stale time and
nothing has invalidated it since its fetch began. Fetches run one at a time, under a lock that
serves callers in order. A reader that has waited while some fetch ended takes the outcome of the
last one, success or failure, and fetches nothing itself; a refresh always fetches.

A caller goes through these events: it begins, and is answered, or fetches, or waits; a waiting
caller resumes when its turn has come; a fetch finishes; a caller may be dropped at any time. One
event is all that happens between two awaits: what a caller does up to its next one, at the lock or
for its fetch, and nothing of another caller comes between.
-/
import Fleet.Cache.Lock
import Fleet.Failure

namespace Fleet

/-- The outcome of a fetch. -/
abbrev Outcome (α : Type) := Except Failure α

namespace Cache

/-! ## Types -/

/-- A value, when its fetch ended, and how many invalidations there had been when it began. -/
structure Entry (α : Type) where
  value : α
  fetchedAt : Nat
  generation : Nat

/-- What a caller asks for. -/
inductive Demand where
  /-- A value; `seen` fetches had ended when the caller began. -/
  | read (seen : Nat)
  /-- A fetch of its own. -/
  | refresh
deriving DecidableEq, Repr

/-- A caller at the lock. -/
structure Caller where
  call : Nat
  demand : Demand
deriving DecidableEq, Repr

/-- What an event leads to. -/
inductive Effect (α : Type) where
  /-- The caller has its answer. -/
  | answer (call : Nat) (outcome : Outcome α)
  /-- The caller's fetch begins. -/
  | fetch (call : Nat)

end Cache

/-- The cached value of one listing; times are in milliseconds. The two counts grow without a bound
and never wrap, as counters of 64 bits would after 2^64 invalidations or fetches. -/
structure Cache (α : Type) where
  staleTime : Nat
  /-- How many invalidations there have been. -/
  generation : Nat := 0
  /-- How many fetches have ended. -/
  completed : Nat := 0
  latest : Option (Cache.Entry α) := none
  /-- The outcome of the fetch that ended last. -/
  remembered : Option (Outcome α) := none
  lock : FairLock Cache.Caller := {}
  /-- The number of invalidations when the holder's fetch began; absent when none runs. -/
  flight : Option Nat := none

namespace Cache

variable {α : Type}

/-! ## Reading -/

/-- The last value that was fetched, fresh or not. -/
def peek (cache : Cache α) : Option α := cache.latest.map (·.value)

/-- Whether an entry is fresh. -/
def isFresh (cache : Cache α) (now : Nat) (entry : Entry α) : Bool :=
  entry.generation == cache.generation && now - entry.fetchedAt < cache.staleTime

/-- The cached value if it is fresh. -/
def fresh? (cache : Cache α) (now : Nat) : Option α :=
  (cache.latest.filter (cache.isFresh now)).map (·.value)

/-! ## Events -/

/-- The cache after an invalidation. -/
def invalidate (cache : Cache α) : Cache α := { cache with generation := cache.generation + 1 }

/-- The holder of the lock begins its fetch. -/
def launch (cache : Cache α) (call : Nat) : Cache α × Option (Effect α) :=
  ({ cache with flight := some cache.generation }, some (.fetch call))

/-- A caller asks for the lock, and fetches at once if it is free. -/
def enter (cache : Cache α) (caller : Caller) : Cache α × Option (Effect α) :=
  let entered := { cache with lock := cache.lock.claim caller }
  if cache.lock.isFree then entered.launch caller.call else (entered, none)

/-- A caller begins to read. -/
def read (cache : Cache α) (now call : Nat) : Cache α × Option (Effect α) :=
  match cache.fresh? now with
  | some value => (cache, some (.answer call (.ok value)))
  | none => cache.enter ⟨call, .read cache.completed⟩

/-- A caller begins to refresh. -/
def refresh (cache : Cache α) (call : Nat) : Cache α × Option (Effect α) :=
  cache.enter ⟨call, .refresh⟩

/-- The outcome a caller takes over when its turn comes: for a reader, the remembered one, if a
fetch has ended since it began. -/
def shared? (cache : Cache α) : Demand → Option (Outcome α)
  | .read seen => if cache.completed = seen then none else cache.remembered
  | .refresh => none

/-- The caller whose turn has come goes on. -/
def resume (cache : Cache α) : Cache α × Option (Effect α) :=
  match cache.lock.holder, cache.flight with
  | some caller, none =>
    match cache.shared? caller.demand with
    | some outcome =>
      ({ cache with lock := cache.lock.release }, some (.answer caller.call outcome))
    | none => cache.launch caller.call
  | _, _ => (cache, none)

/-- The entry after a fetch: a failure keeps the old one. -/
def entryAfter (cache : Cache α) (now generation : Nat) : Outcome α → Option (Entry α)
  | .ok value => some ⟨value, now, generation⟩
  | .error _ => cache.latest

/-- The running fetch ends. -/
def finish (cache : Cache α) (now : Nat) (outcome : Outcome α) : Cache α × Option (Effect α) :=
  match cache.lock.holder, cache.flight with
  | some caller, some generation =>
    ({ cache with
        completed := cache.completed + 1
        latest := cache.entryAfter now generation outcome
        remembered := some outcome
        lock := cache.lock.release
        flight := none },
      some (.answer caller.call outcome))
  | _, _ => (cache, none)

/-- A caller is dropped; a fetch of its own ends without an outcome. -/
def drop (cache : Cache α) (call : Nat) : Cache α :=
  let isGone := fun caller : Caller => caller.call == call
  { cache with
    lock := cache.lock.abandon isGone
    flight := if cache.lock.holder.any isGone then none else cache.flight }

/-! ## Runs -/

/-- What can happen to a cache. -/
inductive Event (α : Type) where
  | read (call : Nat)
  | refresh (call : Nat)
  | invalidate
  | resume
  | finish (outcome : Outcome α)
  | drop (call : Nat)

/-- The cache after an event, and what the event leads to. -/
def step (cache : Cache α) (now : Nat) : Event α → Cache α × Option (Effect α)
  | .read call => cache.read now call
  | .refresh call => cache.refresh call
  | .invalidate => (cache.invalidate, none)
  | .resume => cache.resume
  | .finish outcome => cache.finish now outcome
  | .drop call => (cache.drop call, none)

/-- Callers resume in turn until one of them fetches or nobody waits. -/
def settleWithin (cache : Cache α) : Nat → Cache α × List (Effect α)
  | 0 => (cache, [])
  | fuel + 1 =>
    match cache.resume with
    | (next, some effect) =>
      let (last, effects) := settleWithin next fuel
      (last, effect :: effects)
    | (next, none) => (next, [])

/-- The cache when every caller has gone on as far as it can, and what that leads to. -/
def settle (cache : Cache α) : Cache α × List (Effect α) :=
  cache.settleWithin (cache.lock.queue.length + 1)

end Cache

end Fleet

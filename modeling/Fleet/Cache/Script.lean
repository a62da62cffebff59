/-
Runs of a cache in virtual time. Each call of a script starts at a time of its own, and a fetch
takes as long as its script says. Of two things that happen at one time the end of a fetch comes
first, and starts keep their order.
-/
import Fleet.Cache.Basic

namespace Fleet.Cache

/-! ## Scripts -/

/-- How long a call's fetch takes, and how it ends. -/
structure Fetch (α : Type) where
  duration : Nat
  outcome : Outcome α

/-- What a call does. -/
inductive Request (α : Type) where
  | read (fetch : Fetch α)
  | refresh (fetch : Fetch α)
  | invalidate
  | peek

/-- A call, which starts some time after the script. -/
structure Call (α : Type) where
  start : Nat
  request : Request α

/-- What a call gives. -/
inductive Result (α : Type) where
  | outcome (outcome : Outcome α)
  | done
  | value (value : Option α)

/-- What a call gave, whether its own fetch ran, and when it was done. -/
structure Report (α : Type) where
  result : Result α
  fetched : Bool
  time : Nat

variable {α : Type}

/-- The fetch a call would run. -/
def Request.fetch? : Request α → Option (Fetch α)
  | read fetch | refresh fetch => some fetch
  | invalidate | peek => none

/-! ## Running -/

/-- A script under way: the clock, the cache, the fetch that runs with the time of its end, whose
fetches have run, and the reports so far. -/
structure Playback (α : Type) where
  clock : Nat
  cache : Cache α
  running : Option (Nat × Outcome α) := none
  fetched : List Nat := []
  reports : List (Nat × Report α) := []

namespace Playback

/-- The playback with one more report. -/
def report (p : Playback α) (call : Nat) (result : Result α) : Playback α :=
  { p with reports := (call, ⟨result, p.fetched.contains call, p.clock⟩) :: p.reports }

/-- The playback after an effect of the cache. -/
def follow (calls : List (Call α)) (p : Playback α) : Effect α → Playback α
  | .answer call outcome => p.report call (.outcome outcome)
  | .fetch call =>
    let fetch := calls[call]?.bind (·.request.fetch?)
    { p with
      running := fetch.map fun fetch => (p.clock + fetch.duration, fetch.outcome)
      fetched := call :: p.fetched }

/-- The playback after an event of the cache. -/
def happen (calls : List (Call α)) (p : Playback α) (event : Event α) : Playback α :=
  let (cache, effect) := p.cache.step p.clock event
  effect.toList.foldl (follow calls) { p with cache }

/-- The playback after every waiting caller has gone on as far as it can. -/
def settle (calls : List (Call α)) (p : Playback α) : Playback α :=
  let (cache, effects) := p.cache.settle
  effects.foldl (follow calls) { p with cache }

/-- The playback after the start of a call. -/
def start (calls : List (Call α)) (p : Playback α) (call : Nat) (request : Request α) :
    Playback α :=
  match request with
  | .read _ => p.happen calls (.read call)
  | .refresh _ => p.happen calls (.refresh call)
  | .invalidate => (p.happen calls .invalidate).report call .done
  | .peek => p.report call (.value p.cache.peek)

/-- The playback after the end of the running fetch. -/
def finish (calls : List (Call α)) (p : Playback α) (time : Nat) (outcome : Outcome α) :
    Playback α :=
  ({ p with clock := time, running := none }.happen calls (.finish outcome)).settle calls

/-- The playback after all that is left; `starts` holds the calls to come with their times. -/
def run (calls : List (Call α)) :
    Nat → List (Nat × Nat × Request α) → Playback α → Playback α
  | 0, _, p => p
  | fuel + 1, starts, p =>
    match p.running, starts with
    | some (time, outcome), (begin, call, request) :: rest =>
      if time ≤ begin then run calls fuel starts (p.finish calls time outcome)
      else run calls fuel rest ({ p with clock := begin }.start calls call request)
    | some (time, outcome), [] => run calls fuel [] (p.finish calls time outcome)
    | none, (begin, call, request) :: rest =>
      run calls fuel rest ({ p with clock := begin }.start calls call request)
    | none, [] => p

end Playback

/-- Runs calls that start from `clock` on: the clock and the cache afterwards, and the report of
each call in the order of the calls. -/
def play (clock : Nat) (cache : Cache α) (calls : List (Call α)) :
    Nat × Cache α × List (Option (Report α)) :=
  let starts := (calls.zipIdx.map fun (call, index) =>
    (clock + call.start, index, call.request)).mergeSort fun a b => a.1 ≤ b.1
  let p := Playback.run calls (2 * calls.length) starts { clock, cache }
  (p.clock, p.cache, calls.zipIdx.map fun (_, index) => p.reports.lookup index)

end Fleet.Cache

/-
Runs of a client in virtual time against a scripted backend. Calls that start together start in
order, each going on until it waits; then the requests under way are served in the order in which
they were sent. The rate lets every request through at once, and replies take no time.
-/
import Fleet.Client.Backend
import Fleet.Client.Basic
import Fleet.Poller.Basic

namespace Fleet.Client

/-- A client under way: the clock, the backend, the poller if one runs, the requests to be
served, the answers so far, and the number of the next call. -/
structure Playback where
  clock : Nat := 0
  client : Client
  backend : Backend
  poller : Option Poller := none
  sent : List Exchange := []
  answers : List (Nat × Except Failure Answer) := []
  next : Nat := 0

namespace Playback

/-! ## Events -/

/-- The playback after an effect. -/
def follow (p : Playback) : Effect → Playback
  | .send exchange => { p with sent := p.sent ++ [exchange] }
  | .answer call result => { p with answers := (call, result) :: p.answers }

/-- The playback after an event of the client. -/
def proceed (p : Playback) (event : Event) : Playback :=
  let (client, effect) := p.client.step p.clock event
  effect.elim { p with client } { p with client }.follow

/-- The playback after an event of the client and the requests it leads to. -/
def happen (p : Playback) (event : Event) : Playback :=
  let after := p.proceed event
  after.client.errands.foldl (fun p errand => p.proceed (.dispatch errand)) after

/-- The playback after everyone whose turn has come has gone on, in at most so many rounds. -/
def settle : Nat → Playback → Playback
  | 0, p => p
  | fuel + 1, p =>
    settle fuel
      (((p.happen (.resume .machines)).happen (.resume .blueprints)).happen .resumeChange)

/-- How many callers wait for their turn. -/
def waiting (p : Playback) : Nat :=
  p.client.machines.lock.queue.length + p.client.blueprints.lock.queue.length +
    p.client.changes.queue.length

/-- The first request under way is served. -/
def serve (p : Playback) : Playback :=
  match p.sent with
  | [] => p
  | exchange :: rest =>
    let (reply, backend) := p.backend.serve exchange.request
    let served := { p with sent := rest, backend }.happen (.receive exchange reply)
    settle (served.waiting + 1) served

/-- The playback when nothing is under way any more; at most `fuel` requests are served. -/
def drain : Nat → Playback → Playback
  | 0, p => p
  | fuel + 1, p => if p.sent.isEmpty then p else drain fuel p.serve

/-! ## Calls -/

/-- A call starts. -/
def startCall (p : Playback) (operation : Operation) : Playback :=
  { p.happen (.start p.next operation) with next := p.next + 1 }

/-- What a call gave. -/
def resultOf (p : Playback) (call : Nat) (operation : Operation) :
    Option (Except Failure Answer) :=
  (p.answers.lookup call).map fun result => result.map operation.present

/-- Calls start together and are all answered: the playback afterwards, and what each gave. -/
def call (p : Playback) (operations : List Operation) :
    Playback × List (Option (Except Failure Answer)) :=
  let done := drain (operations.length + 1) (operations.foldl startCall p)
  let results := operations.zipIdx.map fun (operation, i) => done.resultOf (p.next + i) operation
  ({ done with answers := [] }, results)

/-- The machine listing of an answer. -/
def pollOutcome : Option (Except Failure Answer) → Except Failure (List MachineItem)
  | some (.ok (.machines items)) => .ok items
  | some (.error failure) => .error failure
  | _ => .ok []

/-! ## Polling -/

/-- The poll that is due at a time is made. -/
def poll (p : Playback) (poller : Poller) (time : Nat) : Playback :=
  let (done, results) := Playback.call { p with clock := time } [.refreshMachines]
  let polled := (poller.beginPoll time).endPoll (pollOutcome results.head?.join)
  { done with poller := some polled }

/-- The playback after all polls up to a time, of which there are at most `fuel`. -/
def pollUntil (time : Nat) : Nat → Playback → Playback
  | 0, p => p
  | fuel + 1, p =>
    match p.poller with
    | some poller =>
      if poller.due ≤ time then pollUntil time fuel (p.poll poller (max p.clock poller.due))
      else p
    | none => p

/-- The playback after some time has passed. -/
def advance (p : Playback) (milliseconds : Nat) : Playback :=
  let time := p.clock + milliseconds
  { pollUntil time (milliseconds + 1) p with clock := time }

/-- A poller is started, and its first poll is made. -/
def startPoller (p : Playback) : Playback :=
  pollUntil p.clock 1 { p with poller := some (.start p.client.pollInterval p.clock) }

/-- The poller is stopped. -/
def stopPoller (p : Playback) : Playback := { p with poller := none }

end Playback

end Fleet.Client

/-
Runs of a poller: for every step a time and what happens, if anything does. Turns, replies and
stops may come in any order and number, and a run may go on for ever. A poll has ended when a
reply has come for its fetch; the outcomes of the polls that have ended are the history of a run
(`ended`), and what a step does to the poller and to its history is said once (`step_cases`).
-/
import Fleet.Poller.Basic
import Mathlib.Order.Monotone.Basic

namespace Fleet.Poller

/-! ## Steps -/

/-- How a poll ends. -/
abbrev Outcome := Except Failure (List MachineItem)

/-- What happens to a poller. -/
inductive Event where
  /-- The poller is given a turn, in which it begins the poll that is due. -/
  | tick
  /-- The reply to a fetch arrives. Nothing comes between that and the publishing of the new state,
  as the poller does not wait in between. -/
  | reply (outcome : Outcome)
  /-- The poller is stopped, or its handle is dropped. -/
  | stop

/-- The poller after something happens to it at a time. -/
def step (poller : Poller) (now : Nat) : Event → Poller
  | .tick => poller.beginPoll now
  | .reply outcome => poller.endPoll outcome
  | .stop => poller.stop

/-- The outcome of the poll that ends with an event, if one does. -/
def outcome? (poller : Poller) : Event → Option Outcome
  | .reply outcome => if poller.phase = .fetching then some outcome else none
  | _ => none

/-- The ways in which a poller goes on, with the outcome of the poll that ends, if one does. -/
inductive Transition (poller : Poller) (now : Nat) : Event → Poller → Option Outcome → Prop
  | begins (waiting : poller.phase = .waiting) (due : poller.due ≤ now) :
    Transition poller now .tick
      { poller with
        phase := .fetching
        due := nextPoll poller.interval poller.due now
        polls := poller.polls + 1 } none
  | passes (undue : poller.phase = .waiting → now < poller.due) :
    Transition poller now .tick poller none
  | ends (outcome : Outcome) (fetching : poller.phase = .fetching) :
    Transition poller now (.reply outcome)
      { poller with
        phase := .waiting
        update := poller.update.after outcome
        published := poller.published + 1 } (some outcome)
  | ignores (outcome : Outcome) (idle : poller.phase ≠ .fetching) :
    Transition poller now (.reply outcome) poller none
  | stops : Transition poller now .stop { poller with phase := .stopped } none

theorem isDue_iff {poller : Poller} {now : Nat} :
    poller.isDue now = true ↔ poller.phase = .waiting ∧ poller.due ≤ now := by
  simp [isDue]

/-- Every step is one of these. -/
theorem step_transition (poller : Poller) (now : Nat) (event : Event) :
    Transition poller now event (poller.step now event) (poller.outcome? event) := by
  cases event with
  | tick =>
    by_cases due : poller.isDue now = true
    · rw [step, beginPoll, if_pos due]
      exact .begins (isDue_iff.1 due).1 (isDue_iff.1 due).2
    · rw [step, beginPoll, if_neg due]
      exact .passes fun waiting => not_le.1 fun h => due (isDue_iff.2 ⟨waiting, h⟩)
  | reply outcome =>
    by_cases fetching : poller.phase = .fetching
    · rw [step, endPoll, if_pos fetching, outcome?, if_pos fetching]
      exact .ends outcome fetching
    · rw [step, endPoll, if_neg fetching, outcome?, if_neg fetching]
      exact .ignores outcome fetching
  | stop => exact .stops

theorem Transition.interval_eq {poller next : Poller} {now : Nat} {event : Event}
    {ended? : Option Outcome} (t : Transition poller now event next ended?) :
    next.interval = poller.interval := by
  cases t <;> rfl

/-! ## Runs -/

/-- A run of a poller. -/
structure Run where
  interval : Nat
  /-- The time of each step. -/
  clock : Nat → Nat
  /-- What happens at each step. -/
  event : Nat → Option Event
  clock_mono : Monotone clock

namespace Run

/-- The poller before a step. -/
def state (run : Run) : Nat → Poller
  | 0 => .start run.interval (run.clock 0)
  | n + 1 =>
    match run.event n with
    | some event => (run.state n).step (run.clock n) event
    | none => run.state n

/-- The outcome of the poll that ends at a step, if one does. -/
def outcome? (run : Run) (n : Nat) : Option Outcome := (run.event n).bind (run.state n).outcome?

/-- The outcomes of the polls that have ended before a step, the last one first. -/
def ended (run : Run) : Nat → List Outcome
  | 0 => []
  | n + 1 => (run.outcome? n).toList ++ run.ended n

variable (run : Run)

/-- At a step nothing happens, or the poller makes one of its transitions. -/
theorem step_cases (n : Nat) :
    (run.event n = none ∧ run.state (n + 1) = run.state n ∧ run.ended (n + 1) = run.ended n) ∨
    ∃ event outcome?, run.event n = some event ∧
      Transition (run.state n) (run.clock n) event (run.state (n + 1)) outcome? ∧
      run.ended (n + 1) = outcome?.toList ++ run.ended n := by
  cases he : run.event n with
  | none => exact .inl ⟨rfl, by simp [state, he], by simp [ended, outcome?, he]⟩
  | some event =>
    refine .inr ⟨event, (run.state n).outcome? event, rfl, ?_, by simp [ended, outcome?, he]⟩
    rw [show run.state (n + 1) = (run.state n).step (run.clock n) event by simp [state, he]]
    exact step_transition _ _ _

theorem interval_state (n : Nat) : (run.state n).interval = run.interval := by
  induction n with
  | zero => rfl
  | succ n ih =>
    rcases run.step_cases n with ⟨-, hs, -⟩ | ⟨_, _, -, t, -⟩
    · rw [hs, ih]
    · rw [t.interval_eq, ih]

variable {run}

theorem transition {n : Nat} {event : Event} (he : run.event n = some event) :
    ∃ outcome?, Transition (run.state n) (run.clock n) event (run.state (n + 1)) outcome? ∧
      run.ended (n + 1) = outcome?.toList ++ run.ended n := by
  rcases run.step_cases n with ⟨hn, -⟩ | ⟨event', outcome?, he', t, hh⟩
  · rw [hn] at he
    cases he
  · rw [he] at he'
    cases he'
    exact ⟨outcome?, t, hh⟩

variable {n : Nat}

end Run

end Fleet.Poller

/-
The requests under way, as an equation: a step puts the request it sends in front, and takes out
those that its event ends (`inFlight_succ`). So what was sent is under way until its reply comes or
its call is dropped (`ends_between`).
-/
import Fleet.Proofs.Client.Requests
import Mathlib.Data.List.Basic

namespace Fleet.Client

/-- Whether an event ends a request under way: its reply has come, or its call is dropped. -/
def Event.ends : Option Event → Exchange → Bool
  | some (.receive other _), exchange => exchange = other
  | some (.drop call), exchange => exchange.call == call
  | _, _ => false

/-- The request that is sent, if any. -/
def Effect.sent : Option Effect → List Exchange
  | some (.send exchange) => [exchange]
  | _ => []

theorem Effect.sent_eq_nil {effect : Option Effect}
    (unsent : ∀ exchange, effect ≠ some (.send exchange)) : sent effect = [] := by
  rcases effect with _ | effect
  · rfl
  · cases effect with
    | send exchange => exact absurd rfl (unsent exchange)
    | answer call result => rfl

theorem Schedule.inFlight_succ (schedule : Schedule) (n : Nat) : schedule.inFlight (n + 1) =
    Effect.sent (schedule.effect n) ++
      (schedule.inFlight n).filter (!Event.ends (schedule.event n) ·) := by
  have all : (schedule.inFlight n).filter (fun _ => !false) = schedule.inFlight n :=
    List.filter_eq_self.2 fun _ _ => rfl
  have others : ∀ out, (schedule.inFlight n).filter (fun other => !decide (other = out)) =
      (schedule.inFlight n).filter (· ≠ out) := fun out =>
    List.filter_congr fun other _ => decide_not.symm
  rw [inFlight]
  rcases schedule.effect n with _ | _ | _ <;>
    rcases schedule.event n with _ | _ | _ | _ | _ | _ | _ <;>
    simp only [Effect.sent, Event.ends, all, others, List.nil_append, List.cons_append]
  all_goals rfl

/-- The requests of a class follow the same equation. -/
theorem Schedule.filter_inFlight_succ (schedule : Schedule) (n : Nat) (p : Exchange → Bool) :
    (schedule.inFlight (n + 1)).filter p = (Effect.sent (schedule.effect n)).filter p ++
      ((schedule.inFlight n).filter p).filter (!Event.ends (schedule.event n) ·) := by
  rw [inFlight_succ, List.filter_append, List.filter_comm]

/-! ## The end of a request -/

theorem Event.ends_iff {event : Option Event} {exchange : Exchange} :
    Event.ends event exchange = true ↔
      (∃ reply, event = some (.receive exchange reply)) ∨ event = some (.drop exchange.call) := by
  rcases event with _ | event
  · simp [ends]
  · cases event with
    | receive other reply =>
      simp only [ends, decide_eq_true_eq, Option.some.injEq, Event.receive.injEq, reduceCtorEq,
        or_false]
      exact ⟨fun same => ⟨reply, same.symm, rfl⟩, fun ⟨_, same, _⟩ => same.symm⟩
    | drop call =>
      simp only [ends, beq_iff_eq, Option.some.injEq, Event.drop.injEq, reduceCtorEq,
        exists_false, false_or]
      exact eq_comm
    | start | dispatch | resume | resumeChange => simp [ends]

namespace Schedule

variable {schedule : Schedule} {m n : Nat} {exchange : Exchange}

/-- What is under way stays under way, unless its reply comes or its call is dropped. -/
theorem stays_or_ends (flies : exchange ∈ schedule.inFlight n) :
    exchange ∈ schedule.inFlight (n + 1) ∨
      (∃ reply, schedule.event n = some (.receive exchange reply)) ∨
      schedule.event n = some (.drop exchange.call) := by
  cases ended : Event.ends (schedule.event n) exchange with
  | true => exact .inr (Event.ends_iff.1 ended)
  | false =>
    rw [inFlight_succ]
    exact .inl (List.mem_append_right _ (List.mem_filter.2 ⟨flies, by rw [ended]; rfl⟩))

/-- What is under way at one step and not at a later one has ended in between. -/
theorem ends_between (hmn : m ≤ n) (flies : exchange ∈ schedule.inFlight m)
    (landed : exchange ∉ schedule.inFlight n) :
    ∃ k, m ≤ k ∧ k < n ∧ ((∃ reply, schedule.event k = some (.receive exchange reply)) ∨
      schedule.event k = some (.drop exchange.call)) := by
  induction n, hmn using Nat.le_induction with
  | base => exact absurd flies landed
  | succ n hmn ih =>
    by_cases still : exchange ∈ schedule.inFlight n
    · rcases stays_or_ends still with later | ended
      · exact absurd later landed
      · exact ⟨n, hmn, Nat.lt_succ_self n, ended⟩
    · obtain ⟨k, hmk, hkn, ended⟩ := ih still
      exact ⟨k, hmk, Nat.lt_succ_of_lt hkn, ended⟩

end Schedule

end Fleet.Client

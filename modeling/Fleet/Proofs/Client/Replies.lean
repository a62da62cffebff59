/-
The moment a reply comes in. Whatever a request is made for, its reply answers the call that sent
it, with what an accepted reply says or with a failure (`effect_of_receive`); for a listing that is
so because the fetch of the call is the one that runs.
-/
import Fleet.Proofs.Client.Change

namespace Fleet

/-- What an accepted reply says to a request. -/
def Purpose.decode? : Purpose → Reply → Option Answer
  | listing key, reply => reply.json?.map fun body => Answer.listing key (Listing.decode key body)
  | blueprint _, reply => reply.blueprint?.map .blueprint
  | value _, reply => reply.json?.map .value
  | change c, reply => c.decode? reply

namespace Exchange

variable {α : Type} {exchange : Exchange} {decode? : Reply → Option α} {reply : Reply}

theorem result_of_accepted (accepted : reply.isAccepted = true) :
    exchange.result decode? (some reply) =
      match decode? reply with
      | some value => .ok value
      | none => .error exchange.unusable :=
  if_pos accepted

theorem result_of_refused (refused : reply.isAccepted = false) :
    exchange.result decode? (some reply) = .error reply.refusal :=
  if_neg (by simp [refused])

/-- A reply comes to a value if it is accepted and holds the value. -/
theorem result_eq_ok_iff {value : α} :
    exchange.result decode? (some reply) = .ok value ↔
      reply.isAccepted = true ∧ decode? reply = some value := by
  cases accepted : reply.isAccepted with
  | false => simp [result_of_refused accepted]
  | true =>
    rw [result_of_accepted accepted]
    cases decode? reply with
    | none => simp
    | some other => simp

end Exchange

theorem Exchange.map_result {α β : Type} (exchange : Exchange) (decode? : Reply → Option α)
    (f : α → β) (reply : Option Reply) :
    (exchange.result decode? reply).map f =
      exchange.result (fun reply => (decode? reply).map f) reply := by
  cases reply with
  | none => rfl
  | some reply =>
    unfold result
    dsimp only
    split
    · cases decode? reply <;> rfl
    · rfl

namespace Client.Run

variable {run : Run} {n : Nat} {exchange : Exchange} {reply : Option Reply}

theorem effect_of_receive_listing {key : ResourceKey} (purpose : exchange.purpose = .listing key)
    (he : run.event n = some (.receive exchange reply)) :
    run.effect n =
      some (.answer exchange.call ((exchange.outcome key reply).map (Answer.listing key))) := by
  obtain ⟨flight, hr, hc⟩ := running_of_receive purpose he
  have hl : (run.listing key).event n = some (.finish (exchange.outcome key reply)) := by
    rw [run.listing_event key he]
    simp [cacheEvent?, purpose]
  rw [← hc]
  exact effect_of_listing (Cache.Run.effect_of_finish hr hl)

/-- The reply to a request answers the call that sent it. -/
theorem effect_of_receive (he : run.event n = some (.receive exchange reply)) :
    run.effect n = some (.answer exchange.call (exchange.result exchange.purpose.decode? reply)) := by
  cases purpose : exchange.purpose with
  | listing key =>
    rw [effect_of_receive_listing purpose he, Exchange.outcome, Exchange.map_result]
    simp only [Option.map_map]
    rfl
  | blueprint | value =>
    rw [effect_eq he, step, receive, purpose]
    rfl
  | change change => exact effect_of_change he purpose

end Client.Run

end Fleet

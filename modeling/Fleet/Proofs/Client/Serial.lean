/-
Changes of blueprints are made one after another. Never are the requests for two changes under way
at once, the requests are sent in the order in which the calls asked for their turn, and a change
whose request is sent finds every change that was sent before it at its end, whether it succeeded
or failed (`changes_serialized`).
-/
import Fleet.Proofs.Client.Turns

namespace Fleet.Client.Run

variable {run : Run}

/-! ## The end of a change -/

/-- A change has ended in a step. -/
inductive ChangeEnds (run : Run) (k : Nat) (exchange : Exchange) (change : Change) : Prop where
  /-- Its reply has come: its call is answered, and if it has succeeded the blueprint listing is
  stale from then on. -/
  | reply {reply : Option Reply} (receives : run.event k = some (.receive exchange reply))
      (answers : run.effect k =
        some (.answer exchange.call (exchange.result change.decode? reply)))
      (spoils : (exchange.result change.decode? reply).isOk →
        (run.state (k + 1)).cache .blueprints = ((run.state k).cache .blueprints).invalidate)
      (released : (run.state (k + 1)).changes = (run.state k).changes.release)
  /-- Its call was dropped. -/
  | drop (drops : run.event k = some (.drop exchange.call))

theorem changeEnds_of_receive {k : Nat} {exchange : Exchange} {reply : Option Reply}
    {change : Change} (he : run.event k = some (.receive exchange reply))
    (purpose : exchange.purpose = .change change) : run.ChangeEnds k exchange change := by
  refine .reply he (effect_of_change he purpose) ?_ (changes_of_receive he purpose)
  intro succeeded
  rw [state_succ he, step, receive, purpose]
  simp only
  rw [receiveChange_of_isOk succeeded, cache_endChange, cache_invalidate]

/-! ## One change after another -/

/-- Changes are made one after another. -/
structure Serialized (run : Run) : Prop where
  /-- A call asks for its turn when it begins, if its change passes the check, and is the last of
  those who wait then. -/
  asks : ∀ {n call : Nat} {request : ChangeRequest} {change : Change},
    run.event n = some (.start call (.change request)) → request.check = .ok change →
    (run.state (n + 1)).changes.queue = (run.state n).changes.queue ++ [⟨call, change⟩]
  /-- A request for a change is sent when it is the turn of its call. -/
  holds : ∀ {p : Nat} {exchange : Exchange} {change : Change},
    run.effect p = some (.send exchange) → exchange.purpose = .change change →
    (run.state p).changes.holder = some ⟨exchange.call, change⟩
  /-- At most one request for a change is under way at any moment. -/
  one : ∀ n, (run.changeExchanges n).length ≤ 1
  /-- The requests are sent in the order in which the calls asked for their turn. -/
  order : ∀ {i j p q : Nat} {a b : Exchange} {first second : ChangeRequest},
    run.event i = some (.start a.call (.change first)) →
    run.event j = some (.start b.call (.change second)) → i < j →
    run.effect p = some (.send a) → run.effect q = some (.send b) → p < q
  /-- When a request is sent, every change that was sent before it has ended. -/
  ended : ∀ {p q : Nat} {a b : Exchange} {change other : Change},
    run.effect p = some (.send a) → a.purpose = .change change →
    run.effect q = some (.send b) → b.purpose = .change other → p < q →
    ∃ k, p < k ∧ k < q ∧ run.ChangeEnds k a change
  /-- A call that has been answered has left the lock, however it ended. -/
  left : ∀ {j k n call : Nat} {request : ChangeRequest} {result : Except Failure Answer},
    run.event j = some (.start call (.change request)) →
    run.effect k = some (.answer call result) → k < n →
    ∀ pending ∈ (run.state n).changes.queue, pending.call ≠ call

theorem asks_of_start {n call : Nat} {request : ChangeRequest} {change : Change}
    (he : run.event n = some (.start call (.change request)))
    (checked : request.check = .ok change) :
    (run.state (n + 1)).changes.queue = (run.state n).changes.queue ++ [⟨call, change⟩] := by
  rw [state_succ he, step, start]
  simp only [checked]
  rw [changes_enterChange, FairLock.queue_claim (run.changes_fair n)]

theorem length_changeExchanges_le (run : Run) (n : Nat) :
    (run.changeExchanges n).length ≤ 1 := by
  by_contra many
  have pos : 0 < (run.changeExchanges n).length := by omega
  obtain ⟨exchange, listed⟩ := List.exists_mem_of_length_pos pos
  obtain ⟨flies, purpose⟩ := List.mem_filter.1 listed
  obtain ⟨-, -, -, -, -, only⟩ := alone_of_changeExchange (run.atWork n) flies purpose
  simp [only] at many

/-- A request is sent for a change when it is the turn of its call. -/
theorem holder_of_send {p i : Nat} {exchange : Exchange} {request : ChangeRequest}
    (hp : run.effect p = some (.send exchange))
    (hi : run.event i = some (.start exchange.call (.change request))) :
    i < p ∧ ∃ change, (run.state p).changes.holder = some ⟨exchange.call, change⟩ := by
  obtain ⟨j, hjp, operation, hj, makes⟩ := makes_of_send hp
  obtain ⟨change, -, purpose⟩ := change_of_makes hi hj makes
  obtain ⟨-, waits, -⟩ := dispatch_of_send hp
  obtain ⟨rfl, -⟩ := start_unique hi hj
  exact ⟨hjp, change, holder_of_changeErrand waits purpose⟩

theorem order_of_sends {i j p q : Nat} {a b : Exchange} {first second : ChangeRequest}
    (hi : run.event i = some (.start a.call (.change first)))
    (hj : run.event j = some (.start b.call (.change second))) (hij : i < j)
    (hp : run.effect p = some (.send a)) (hq : run.effect q = some (.send b)) : p < q := by
  obtain ⟨-, change, holds_a⟩ := holder_of_send hp hi
  obtain ⟨hjq, other, holds_b⟩ := holder_of_send hq hj
  by_contra late
  -- the call that began first would already have been at the lock, and in front
  have waits := mem_changes_of_later hi (hij.trans hjq) (not_lt.1 late)
    (FairLock.mem_queue_of_holder holds_a)
  have ordered := run.changes_ordered q
  rw [FairLock.queue_of_holder holds_b] at waits ordered
  rcases List.mem_cons.1 waits with same | behind
  · have calls : a.call = b.call := congrArg PendingChange.call same
    rw [calls] at hi
    have := (start_unique hi hj).1
    omega
  · obtain ⟨m, n, _, _, hmn, hm, hn⟩ := List.rel_of_pairwise_cons ordered behind
    have := (start_unique hj hm).1
    have := (start_unique hi hn).1
    omega

theorem ended_of_sends {p q : Nat} {a b : Exchange} {change other : Change}
    (hp : run.effect p = some (.send a)) (ha : a.purpose = .change change)
    (hq : run.effect q = some (.send b)) (hb : b.purpose = .change other) (hpq : p < q) :
    ∃ k, p < k ∧ k < q ∧ run.ChangeEnds k a change := by
  have flies : a ∈ run.inFlight (p + 1) := by
    rw [inFlight_of_send hp]
    exact List.mem_cons_self
  -- while one request is to be made no other is under way
  have landed : a ∉ run.inFlight q := by
    intro still
    obtain ⟨-, waits, -⟩ := dispatch_of_send hq
    obtain ⟨-, -, -, -, -, empty⟩ :=
      alone_of_changeErrand (run.atWork q) waits (by rw [hb]; rfl)
    have listed : a ∈ run.changeExchanges q := List.mem_filter.2 ⟨still, by rw [ha]; rfl⟩
    rw [empty] at listed
    cases listed
  obtain ⟨k, hpk, hkq, ⟨reply, receives⟩ | drops⟩ := Schedule.ends_between hpq flies landed
  · exact ⟨k, hpk, hkq, changeEnds_of_receive receives ha⟩
  · exact ⟨k, hpk, hkq, .drop drops⟩

/-- In every run changes are made one after another, whatever becomes of them. -/
theorem changes_serialized (run : Run) : run.Serialized where
  asks := asks_of_start
  holds hp purpose := holder_of_changeErrand (dispatch_of_send hp).2.1 purpose
  one := run.length_changeExchanges_le
  order := order_of_sends
  ended := ended_of_sends
  left hj hk hkn _ waits := not_mem_changes_of_answer hj hk hkn waits

/-- The request for a deletion. -/
def deletion (call : Nat) (id : ResourceId) : Exchange :=
  plainExchange call (.change (.delete id)) ["blueprints", id.text]

def otherId : ResourceId := ⟨"b2", by decide, by decide⟩

/-- Two deletions are asked for at once; the first one fails, and then it is the turn of the
second. -/
def deletesTwo : Run := ofEvents plainSettings isOk_plainSettings
  [.start 0 (.change (.delete "b1")), .start 1 (.change (.delete "b2")),
    .dispatch (deletion 0 plainId).toErrand, .receive (deletion 0 plainId) (some ⟨500, some ""⟩),
    .resumeChange, .dispatch (deletion 1 otherId).toErrand,
    .receive (deletion 1 otherId) (some ⟨204, some ""⟩)]
  (by decide) (by decide +kernel)

theorem deletesTwo_serialized :
    deletesTwo.effect 2 = some (.send (deletion 0 plainId)) ∧
    deletesTwo.effect 5 = some (.send (deletion 1 otherId)) ∧
    (∀ n, (deletesTwo.changeExchanges n).length ≤ 1) ∧
    ∃ k, 2 < k ∧ k < 5 ∧ deletesTwo.ChangeEnds k (deletion 0 plainId) (.delete plainId) := by
  have serialized := changes_serialized deletesTwo
  have first : deletesTwo.effect 2 = some (.send (deletion 0 plainId)) :=
    send_of_dispatch rfl (by decide +kernel) (by decide +kernel)
  have second : deletesTwo.effect 5 = some (.send (deletion 1 otherId)) :=
    send_of_dispatch rfl (by decide +kernel) (by decide +kernel)
  exact ⟨first, second, serialized.one, serialized.ended first rfl second rfl (by decide)⟩

end Fleet.Client.Run

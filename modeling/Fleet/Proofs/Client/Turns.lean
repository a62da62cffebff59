/-
Whose turn it is to change blueprints. What a step does about changes is one of a few things
(`ChangeStep`). While the change of the holder of the lock is being made its request is to be made
or under way, and there is never another request for a change (`atWork`); those at
the lock stand there in the order in which their calls began (`changes_ordered`), and a call that
has been answered has left it for good (`not_mem_changes_of_answer`).
-/
import Fleet.Proofs.Client.Flight
import Fleet.Proofs.Client.Submission

namespace Fleet

/-- To leave out one that is not in a class changes nothing in the class. -/
theorem filter_filter_ne {α : Type} [DecidableEq α] {p : α → Bool} {out : α} (h : p out = false)
    (list : List α) : (list.filter (· ≠ out)).filter p = list.filter p := by
  rw [List.filter_filter]
  refine List.filter_congr fun x _ => ?_
  by_cases hx : x = out
  · simp [hx, h]
  · simp [hx]

/-- Whether a request is made for a change. -/
def Purpose.isChange : Purpose → Bool
  | .change _ => true
  | _ => false

/-- The request for the change. -/
def PendingChange.errand (pending : PendingChange) : Errand :=
  ⟨pending.call, .change pending.change⟩

namespace Client

/-- The requests for changes that are to be made. -/
def changeErrands (client : Client) : List Errand := client.errands.filter (·.purpose.isChange)

theorem changeErrands_post {client : Client} {call : Nat} {purpose : Purpose}
    (h : purpose.isChange = false) :
    (client.post call purpose).changeErrands = client.changeErrands := by
  unfold changeErrands Client.post
  rw [List.filter_append]
  simp [h]

theorem changeErrands_unpost (client : Client) (errand : Errand) :
    (client.unpost errand).changeErrands = client.changeErrands.filter (· ≠ errand) := by
  unfold changeErrands Client.unpost
  exact List.filter_comm _ _ _

theorem changeErrands_unpost_of_not {client : Client} {errand : Errand}
    (h : errand.purpose.isChange = false) :
    (client.unpost errand).changeErrands = client.changeErrands :=
  filter_filter_ne (p := fun errand : Errand => errand.purpose.isChange) h client.errands

/-! ## Changes in a step -/

/-- What a step does about changes. -/
inductive ChangeStep (client : Client) : Event → Client → Option Effect → Prop where
  /-- The step has nothing to do with changes. -/
  | rest {event : Event} {next : Client} {effect : Option Effect}
      (lock : next.changes = client.changes) (changing : next.changing = client.changing)
      (errands : next.changeErrands = client.changeErrands)
      (unsent : ∀ exchange, effect = some (.send exchange) → exchange.purpose.isChange = false)
      (unheard : ∀ exchange reply, event = .receive exchange reply →
        exchange.purpose.isChange = false)
      (undropped : ∀ call, event ≠ .drop call) : ChangeStep client event next effect
  | claim {call : Nat} {request : ChangeRequest} {change : Change}
      (checked : request.check = .ok change) :
    ChangeStep client (.start call (.change request)) (client.enterChange ⟨call, change⟩) none
  | turn {pending : PendingChange} (holds : client.changes.holder = some pending)
      (idle : client.changing = false) :
    ChangeStep client .resumeChange (client.beginChange pending) none
  | send {errand : Errand} {request : Request} (waits : errand ∈ client.errands)
      (purpose : errand.purpose.isChange = true) :
    ChangeStep client (.dispatch errand) (client.unpost errand) (some (.send ⟨errand, request⟩))
  /-- The request for a change cannot be made. -/
  | unmade {errand : Errand} {failure : Failure} (waits : errand ∈ client.errands)
      (purpose : errand.purpose.isChange = true) :
    ChangeStep client (.dispatch errand) (client.unpost errand).endChange
      (some (.answer errand.call (.error failure)))
  | reply {exchange : Exchange} {reply : Option Reply} {change : Change}
      (purpose : exchange.purpose = .change change) :
    ChangeStep client (.receive exchange reply) (client.receiveChange exchange change reply).1
      (some (.answer exchange.call (exchange.result change.decode? reply)))
  | drop {call : Nat} : ChangeStep client (.drop call) (client.drop call) none

section Step

variable {client next : Client} {now : Nat} {event : Event} {effect : Option Effect}

/-- An event of a listing has nothing to do with changes. -/
theorem Touches.changeStep {left : Client} {key : ResourceKey}
    {cacheEvent : Cache.Event (List key.Item)} (touches : Touches client event key cacheEvent left)
    (now : Nat) : ChangeStep client event (left.listing key now cacheEvent).1
      (left.listing key now cacheEvent).2 := by
  obtain ⟨machines, blueprints, errands, hl⟩ := left.listing_frame key now cacheEvent
  have t : Transition client now event _ _ := .listing touches
  refine .rest ?_ ?_ ?_ ?_ ?_ ?_
  · rw [hl]
    cases touches <;> rfl
  · rw [hl]
    cases touches <;> rfl
  · unfold changeErrands
    rcases touches.errands_cases now with h | ⟨call, -, h⟩ | ⟨errand, -, rfl, h⟩
    · rw [h]
    · rw [h, List.filter_append]
      simp [Purpose.isChange]
    · rw [h, filter_filter_ne]
      cases touches with
      | abort waits purpose => simp [purpose, Purpose.isChange]
  · intro exchange hf
    rw [hf] at t
    obtain ⟨rfl, -, made⟩ := t.send_cases
    cases touches with
    | abort waits purpose => simp [purpose, Purpose.isChange]
  · rintro exchange reply rfl
    cases touches with
    | reply purpose => simp [purpose, Purpose.isChange]
  · rintro call rfl
    cases touches

theorem Transition.changeStep (t : Transition client now event next effect) :
    ChangeStep client event next effect := by
  cases t with
  | listing touches => exact touches.changeStep now
  | @invalidate call key =>
    obtain ⟨machines, blueprints, h⟩ := client.withCache_frame key (client.cache key).invalidate
    rw [Client.invalidate, h]
    exact .rest rfl rfl rfl (by simp) (by simp) (by simp)
  | setSession | peek | refuse => exact .rest rfl rfl rfl (by simp) (by simp) (by simp)
  | @post call operation purpose posts =>
    have unchanged : purpose.isChange = false := by cases posts <;> rfl
    exact .rest rfl rfl (changeErrands_post unchanged) (by simp) (by simp) (by simp)
  | claim checked => exact .claim checked
  | proceed =>
    unfold resumeChange
    split
    · rename_i pending holds idle
      exact .turn holds idle
    · exact .rest rfl rfl rfl (by simp) (by simp) (by simp)
  | @send errand request waits made =>
    by_cases purpose : errand.purpose.isChange = true
    · exact .send waits purpose
    · rw [Bool.not_eq_true] at purpose
      refine .rest rfl rfl (changeErrands_unpost_of_not purpose) ?_ (by simp) (by simp)
      rintro exchange ⟨⟩
      exact purpose
  | @abort errand failure waits unlisted unmade =>
    cases hp : errand.purpose with
    | listing key => exact absurd hp (unlisted key)
    | blueprint | value =>
      have unchanged : errand.purpose.isChange = false := by rw [hp]; rfl
      unfold Client.abort
      simp only [hp]
      exact .rest rfl rfl (changeErrands_unpost_of_not unchanged) (by simp) (by simp) (by simp)
    | change change =>
      unfold Client.abort
      simp only [hp]
      exact .unmade waits (by rw [hp]; rfl)
  | idle gone => exact .rest rfl rfl rfl (by simp) (by simp) (by simp)
  | reply answers =>
    refine .rest rfl rfl rfl (by simp) ?_ (by simp)
    rintro exchange reply ⟨⟩
    cases answers <;> simp [*, Purpose.isChange]
  | change purpose => exact .reply purpose
  | drop => exact .drop

end Step

/-! ## Those who wait -/

section Queue

variable {client next : Client} {event : Event} {effect : Option Effect}

theorem changes_enterChange (client : Client) (pending : PendingChange) :
    (client.enterChange pending).changes = client.changes.claim pending := by
  unfold enterChange
  split <;> rfl

theorem receiveChange_frame (client : Client) (exchange : Exchange) (change : Change)
    (reply : Option Reply) : (client.receiveChange exchange change reply).1.changes =
      client.changes.release ∧ (client.receiveChange exchange change reply).1.changing = false ∧
      (client.receiveChange exchange change reply).1.errands = client.errands := by
  unfold receiveChange
  split <;> exact ⟨rfl, rfl, rfl⟩

/-- The lock stays fair. -/
theorem ChangeStep.fair (step : ChangeStep client event next effect)
    (fair : client.changes.Fair) : next.changes.Fair := by
  cases step with
  | rest lock => exact lock ▸ fair
  | claim =>
    rw [changes_enterChange]
    exact FairLock.fair_claim _ _
  | turn | send => exact fair
  | unmade => exact FairLock.fair_release _
  | @reply exchange reply change =>
    rw [(client.receiveChange_frame exchange change reply).1]
    exact FairLock.fair_release _
  | drop => exact FairLock.fair_abandon fair _

/-- A step leaves those at the lock as they are, or a call joins them at the end, or the first of
them leaves, or a dropped one leaves. -/
theorem ChangeStep.queue_cases (step : ChangeStep client event next effect)
    (fair : client.changes.Fair) :
    next.changes.queue = client.changes.queue ∨
    (∃ call request change, event = .start call (.change request) ∧ request.check = .ok change ∧
      next.changes.queue = client.changes.queue ++ [⟨call, change⟩]) ∨
    next.changes.queue = client.changes.queue.tail ∨
    ∃ call, event = .drop call ∧
      next.changes.queue = client.changes.queue.filter (·.call != call) := by
  cases step with
  | rest lock => exact .inl (by rw [lock])
  | turn | send => exact .inl rfl
  | claim checked =>
    refine .inr (.inl ⟨_, _, _, rfl, checked, ?_⟩)
    rw [changes_enterChange, FairLock.queue_claim fair]
  | unmade => exact .inr (.inr (.inl (FairLock.queue_release fair)))
  | @reply exchange reply change =>
    refine .inr (.inr (.inl ?_))
    rw [(client.receiveChange_frame exchange change reply).1, FairLock.queue_release fair]
  | drop => exact .inr (.inr (.inr ⟨_, rfl, FairLock.queue_abandon fair _⟩))

end Queue

theorem idle_of_ofSettings {settings : Settings} {client : Client}
    (h : ofSettings settings = .ok client) : client.changing = false := by
  unfold ofSettings at h
  simp only [bind, Except.bind, pure, Except.pure] at h
  repeat' split at h
  all_goals cases h
  rfl

namespace Run

variable {run : Run}

theorem changes_fair (run : Run) (n : Nat) : (run.state n).changes.Fair := by
  induction n with
  | zero =>
    obtain ⟨settings, hm⟩ := run.made
    show run.initial.changes.Fair
    rw [(initial_of_ofSettings hm).2.1]
    exact fun _ => rfl
  | succ n ih =>
    rcases run.step_cases n with ⟨-, hs, -⟩ | ⟨event, -, t⟩
    · rw [hs]
      exact ih
    · exact t.changeStep.fair ih

/-- One call has begun before the other. -/
def BeganBefore (run : Run) (a b : Nat) : Prop :=
  ∃ i j operation other, i < j ∧ run.event i = some (.start a operation) ∧
    run.event j = some (.start b other)

theorem BeganBefore.ne {a b : Nat} (h : run.BeganBefore a b) : a ≠ b := by
  rintro rfl
  obtain ⟨i, j, operation, other, hij, hi, hj⟩ := h
  have := (start_unique hi hj).1
  omega

/-- Those at the lock stand there in the order in which their calls began. -/
theorem changes_ordered (run : Run) (n : Nat) :
    (run.state n).changes.queue.Pairwise fun a b => run.BeganBefore a.call b.call := by
  induction n with
  | zero =>
    obtain ⟨settings, hm⟩ := run.made
    show run.initial.changes.queue.Pairwise _
    rw [(initial_of_ofSettings hm).2.1]
    exact .nil
  | succ n ih =>
    rcases run.step_cases n with ⟨-, hs, -⟩ | ⟨event, he, t⟩
    · rw [hs]
      exact ih
    · rcases t.changeStep.queue_cases (run.changes_fair n) with hq |
        ⟨call, request, change, rfl, -, hq⟩ | hq | ⟨call, -, hq⟩
      · rw [hq]
        exact ih
      · rw [hq, List.pairwise_append]
        refine ⟨ih, List.pairwise_singleton _ _, ?_⟩
        -- whoever waits already began earlier than the call that begins now
        intro pending waits last joins
        rw [List.mem_singleton] at joins
        subst joins
        obtain ⟨j, hj, other, hs, -⟩ := change_origin waits
        exact ⟨j, n, _, _, hj, hs, he⟩
      · rw [hq]
        exact ih.tail
      · rw [hq]
        exact ih.filter _

/-- Whoever is at the lock at a step, and had begun at an earlier one, was at the lock then. -/
theorem mem_changes_of_later {i m n : Nat} {pending : PendingChange} {operation : Operation}
    (hi : run.event i = some (.start pending.call operation)) (him : i < m) (hmn : m ≤ n)
    (h : pending ∈ (run.state n).changes.queue) : pending ∈ (run.state m).changes.queue := by
  induction n, hmn using Nat.le_induction with
  | base => exact h
  | succ n hmn ih =>
    rcases run.step_cases n with ⟨-, hs, -⟩ | ⟨event, he, t⟩
    · rw [hs] at h
      exact ih h
    · rcases t.mem_changes h with h | ⟨request, rfl, -⟩
      · exact ih h
      · have := (start_unique hi he).1
        omega

/-! ## Requests for changes -/

/-- The requests for changes that are under way. -/
def changeExchanges (run : Run) (n : Nat) : List Exchange :=
  (run.inFlight n).filter (·.purpose.isChange)

/-- The requests for changes that are to be made or under way. -/
def changesAwaiting (run : Run) (n : Nat) : List Errand :=
  (run.state n).changeErrands ++ (run.changeExchanges n).map (·.toErrand)

/-- While the change of the holder is being made its request, and no other, is to be made or under
way; otherwise there is none. -/
inductive AtWork (client : Client) (awaiting : List Errand) : Prop where
  | idle (idle : client.changing = false) (empty : awaiting = [])
  | busy {pending : PendingChange} (holds : client.changes.holder = some pending)
      (busy : client.changing = true) (only : awaiting = [pending.errand])

theorem AtWork.eq_nil_of_idle {client : Client} {awaiting : List Errand}
    (h : AtWork client awaiting) (idle : client.changing = false) : awaiting = [] := by
  cases h with
  | idle _ empty => exact empty
  | busy _ busy =>
    rw [busy] at idle
    cases idle

theorem AtWork.idle_of_free {client : Client} {awaiting : List Errand}
    (h : AtWork client awaiting) (free : client.changes.holder = none) :
    client.changing = false := by
  cases h with
  | idle idle => exact idle
  | busy holds =>
    rw [free] at holds
    cases holds

theorem AtWork.congr {client next : Client} {awaiting : List Errand} (h : AtWork client awaiting)
    (holder : next.changes.holder = client.changes.holder)
    (changing : next.changing = client.changing) : AtWork next awaiting := by
  cases h with
  | idle idle empty => exact .idle (changing.trans idle) empty
  | busy holds busy only => exact .busy (holder.trans holds) (changing.trans busy) only

theorem changeExchanges_succ (run : Run) (n : Nat) : run.changeExchanges (n + 1) =
    (Effect.sent (run.effect n)).filter (·.purpose.isChange) ++
      (run.changeExchanges n).filter (!Event.ends (run.event n) ·) :=
  run.filter_inFlight_succ n _

/-- A step that has nothing to do with changes leaves their requests under way. -/
theorem changeExchanges_of_quiet {n : Nat}
    (unsent : ∀ exchange, run.effect n = some (.send exchange) → exchange.purpose.isChange = false)
    (unheard : ∀ exchange reply, run.event n = some (.receive exchange reply) →
      exchange.purpose.isChange = false)
    (undropped : ∀ call, run.event n ≠ some (.drop call)) :
    run.changeExchanges (n + 1) = run.changeExchanges n := by
  have none_sent : (Effect.sent (run.effect n)).filter (·.purpose.isChange) = [] := by
    by_cases sent : ∃ exchange, run.effect n = some (.send exchange)
    · obtain ⟨exchange, hf⟩ := sent
      rw [hf]
      exact List.filter_cons_of_neg (by simp [unsent exchange hf])
    · rw [Effect.sent_eq_nil fun exchange hf => sent ⟨exchange, hf⟩]
      rfl
  have none_ended : (run.changeExchanges n).filter (!Event.ends (run.event n) ·) =
      run.changeExchanges n := by
    refine List.filter_eq_self.2 fun exchange listed => ?_
    rw [Bool.not_eq_true', ← Bool.not_eq_true, Event.ends_iff]
    rintro (⟨reply, heard⟩ | dropped)
    · have purpose := (List.mem_filter.1 listed).2
      rw [unheard exchange reply heard] at purpose
      cases purpose
    · exact undropped _ dropped
  rw [changeExchanges_succ, none_sent, none_ended, List.nil_append]

section AtWork

variable {n : Nat} (atWork : AtWork (run.state n) (run.changesAwaiting n))
include atWork

theorem alone_of_changeErrand {errand : Errand} (waits : errand ∈ (run.state n).errands)
    (purpose : errand.purpose.isChange = true) :
    ∃ pending, (run.state n).changes.holder = some pending ∧ (run.state n).changing = true ∧
      errand = pending.errand ∧ (run.state n).changeErrands = [errand] ∧
      run.changeExchanges n = [] := by
  have listed : errand ∈ (run.state n).changeErrands := List.mem_filter.2 ⟨waits, purpose⟩
  cases atWork with
  | idle _ empty =>
    rw [(List.append_eq_nil_iff.1 empty).1] at listed
    cases listed
  | @busy pending holds busy only =>
    rcases List.append_eq_singleton_iff.1 only with ⟨he, -⟩ | ⟨he, hx⟩
    · rw [he] at listed
      cases listed
    · rw [he, List.mem_singleton] at listed
      subst listed
      exact ⟨pending, holds, busy, rfl, he, List.map_eq_nil_iff.1 hx⟩

theorem alone_of_changeExchange {exchange : Exchange} (flies : exchange ∈ run.inFlight n)
    (purpose : exchange.purpose.isChange = true) :
    ∃ pending, (run.state n).changes.holder = some pending ∧ (run.state n).changing = true ∧
      exchange.toErrand = pending.errand ∧ (run.state n).changeErrands = [] ∧
      run.changeExchanges n = [exchange] := by
  have listed : exchange ∈ run.changeExchanges n := List.mem_filter.2 ⟨flies, purpose⟩
  cases atWork with
  | idle _ empty =>
    rw [List.map_eq_nil_iff.1 (List.append_eq_nil_iff.1 empty).2] at listed
    cases listed
  | @busy pending holds busy only =>
    rcases List.append_eq_singleton_iff.1 only with ⟨he, hx⟩ | ⟨-, hx⟩
    · obtain ⟨single, hl, ho⟩ := List.map_eq_singleton_iff.1 hx
      rw [hl, List.mem_singleton] at listed
      subst listed
      exact ⟨pending, holds, busy, ho, he, hl⟩
    · rw [List.map_eq_nil_iff.1 hx] at listed
      cases listed

/-- A change begins: its request is to be made. -/
theorem atWork_of_begin {pending : PendingChange} (idle : (run.state n).changing = false)
    (holds : (run.state (n + 1)).changes.holder = some pending)
    (busy : (run.state (n + 1)).changing = true)
    (posts : (run.state (n + 1)).errands = (run.state n).errands ++ [pending.errand])
    (flying : run.changeExchanges (n + 1) = run.changeExchanges n) :
    AtWork (run.state (n + 1)) (run.changesAwaiting (n + 1)) := by
  obtain ⟨no_errand, no_exchange⟩ := List.append_eq_nil_iff.1 (atWork.eq_nil_of_idle idle)
  refine .busy holds busy ?_
  unfold changesAwaiting
  rw [flying, no_exchange, changeErrands, posts, List.filter_append]
  unfold changeErrands at no_errand
  rw [no_errand]
  rfl

theorem atWork_of_claim {call : Nat} {request : ChangeRequest} {change : Change}
    (he : run.event n = some (.start call (.change request)))
    (hs : run.state (n + 1) = (run.state n).enterChange ⟨call, change⟩) :
    AtWork (run.state (n + 1)) (run.changesAwaiting (n + 1)) := by
  have flying : run.changeExchanges (n + 1) = run.changeExchanges n := by
    refine changeExchanges_of_quiet ?_ (by simp [he]) (by simp [he])
    intro exchange h
    exact absurd h (unsent he (by simp) exchange)
  unfold enterChange at hs
  cases holder : (run.state n).changes.holder with
  | none =>
    rw [if_pos (by simp [FairLock.isFree, holder])] at hs
    have holds : (run.state (n + 1)).changes.holder = some ⟨call, change⟩ := by
      rw [hs]
      exact FairLock.holder_claim_of_free holder _
    exact atWork_of_begin atWork (atWork.idle_of_free holder) holds (by rw [hs]; rfl)
      (by rw [hs]; rfl) flying
  | some pending =>
    rw [if_neg (by simp [FairLock.isFree, holder])] at hs
    have awaiting : run.changesAwaiting (n + 1) = run.changesAwaiting n := by
      rw [changesAwaiting, flying, hs]
      rfl
    rw [awaiting, hs]
    exact atWork.congr (FairLock.holder_claim_of_held (by simp [holder]) _) rfl

theorem atWork_of_turn {pending : PendingChange} (he : run.event n = some .resumeChange)
    (holds : (run.state n).changes.holder = some pending)
    (idle : (run.state n).changing = false)
    (hs : run.state (n + 1) = (run.state n).beginChange pending) :
    AtWork (run.state (n + 1)) (run.changesAwaiting (n + 1)) := by
  refine atWork_of_begin atWork idle (by rw [hs]; exact holds) (by rw [hs]; rfl) (by rw [hs]; rfl)
    (changeExchanges_of_quiet ?_ (by simp [he]) (by simp [he]))
  intro exchange h
  exact absurd h (unsent he (by simp) exchange)

/-- The request for the change is let through: it is under way now. -/
theorem atWork_of_send {exchange : Exchange} (hf : run.effect n = some (.send exchange))
    (purpose : exchange.purpose.isChange = true)
    (hs : run.state (n + 1) = (run.state n).unpost exchange.toErrand) :
    AtWork (run.state (n + 1)) (run.changesAwaiting (n + 1)) := by
  obtain ⟨-, waits, -⟩ := dispatch_of_send hf
  obtain ⟨pending, holds, busy, same, only, none_flies⟩ :=
    alone_of_changeErrand atWork waits purpose
  have left : ((run.state n).unpost exchange.toErrand).changeErrands = [] := by
    rw [changeErrands_unpost, only]
    simp
  have flying : run.changeExchanges (n + 1) = [exchange] := by
    rw [changeExchanges_succ, hf, none_flies]
    simp [Effect.sent, purpose]
  refine .busy (by rw [hs]; exact holds) (by rw [hs]; exact busy) ?_
  rw [changesAwaiting, hs, left, flying, ← same]
  rfl

/-- The request for the change cannot be made: the change has ended. -/
theorem atWork_of_unmade {errand : Errand} {failure : Failure}
    (he : run.event n = some (.dispatch errand))
    (hf : run.effect n = some (.answer errand.call (.error failure)))
    (waits : errand ∈ (run.state n).errands) (purpose : errand.purpose.isChange = true)
    (hs : run.state (n + 1) = ((run.state n).unpost errand).endChange) :
    AtWork (run.state (n + 1)) (run.changesAwaiting (n + 1)) := by
  obtain ⟨pending, -, -, -, only, none_flies⟩ := alone_of_changeErrand atWork waits purpose
  have left : ((run.state n).unpost errand).changeErrands = [] := by
    rw [changeErrands_unpost, only]
    simp
  have flying : run.changeExchanges (n + 1) = run.changeExchanges n :=
    changeExchanges_of_quiet (by simp [hf]) (by simp [he]) (by simp [he])
  refine .idle (by rw [hs]; rfl) ?_
  rw [changesAwaiting, hs, flying, none_flies, List.map_nil, List.append_nil]
  exact left

/-- The reply to the request has come: the change has ended. -/
theorem atWork_of_reply {exchange : Exchange} {reply : Option Reply} {change : Change}
    (he : run.event n = some (.receive exchange reply))
    (purpose : exchange.purpose = .change change)
    (hs : run.state (n + 1) = ((run.state n).receiveChange exchange change reply).1) :
    AtWork (run.state (n + 1)) (run.changesAwaiting (n + 1)) := by
  obtain ⟨pending, -, -, -, none_waits, only⟩ :=
    alone_of_changeExchange atWork (run.heard he) (by rw [purpose]; rfl)
  obtain ⟨-, idle, errands⟩ := (run.state n).receiveChange_frame exchange change reply
  have landed : run.changeExchanges (n + 1) = [] := by
    rw [changeExchanges_succ, Effect.sent_eq_nil (unsent he (by simp)), he, only]
    simp [Event.ends]
  refine .idle (by rw [hs, idle]) ?_
  unfold changeErrands at none_waits
  rw [changesAwaiting, changeErrands, hs, errands, none_waits, landed]
  rfl

theorem atWork_of_drop {call : Nat} (he : run.event n = some (.drop call)) :
    AtWork (run.state (n + 1)) (run.changesAwaiting (n + 1)) := by
  have errands : (run.state (n + 1)).changeErrands =
      (run.state n).changeErrands.filter (·.call != call) := by
    rw [state_succ he]
    show ((run.state n).errands.filter _).filter _ = ((run.state n).errands.filter _).filter _
    exact List.filter_comm _ _ _
  have flying : run.changeExchanges (n + 1) =
      (run.changeExchanges n).filter (·.call != call) := by
    rw [changeExchanges_succ, Effect.sent_eq_nil (unsent he (by simp)), he]
    rfl
  have awaiting : run.changesAwaiting (n + 1) =
      (run.changesAwaiting n).filter (·.call != call) := by
    rw [changesAwaiting, errands, flying, changesAwaiting, List.filter_append, List.filter_map]
    rfl
  rw [awaiting]
  have changing : (run.state (n + 1)).changing =
      ((run.state n).changing && !(run.state n).changes.holder.any (·.call == call)) := by
    rw [state_succ he]
    rfl
  cases atWork with
  | idle idle empty => exact .idle (by rw [changing, idle]; rfl) (by rw [empty]; rfl)
  | @busy pending holds busy only =>
    rw [only]
    by_cases gone : pending.call = call
    · refine .idle ?_ ?_
      · simp [changing, holds, gone]
      · simp [PendingChange.errand, gone]
    · have still : (run.state (n + 1)).changes.holder = some pending := by
        rw [state_succ he]
        exact FairLock.holder_abandon_of_neg holds (by simpa using gone)
      refine .busy still ?_ ?_
      · simp [changing, holds, busy, gone]
      · simp [PendingChange.errand, gone]

theorem atWork_of_step {event : Event} (he : run.event n = some event)
    (step : ChangeStep (run.state n) event (run.state (n + 1)) (run.effect n)) :
    AtWork (run.state (n + 1)) (run.changesAwaiting (n + 1)) := by
  generalize hs : run.state (n + 1) = next at step
  generalize hf : run.effect n = effect at step
  rw [← hs]
  cases step with
  | rest lock changing errands unsent unheard undropped =>
    have flying : run.changeExchanges (n + 1) = run.changeExchanges n := by
      refine changeExchanges_of_quiet (hf ▸ unsent) ?_ ?_
      · intro exchange reply heard
        exact unheard exchange reply (Option.some.inj (he.symm.trans heard))
      · intro call dropped
        exact undropped call (Option.some.inj (he.symm.trans dropped))
    have awaiting : run.changesAwaiting (n + 1) = run.changesAwaiting n := by
      rw [changesAwaiting, hs, errands, flying, changesAwaiting]
    rw [awaiting, hs]
    exact atWork.congr (by rw [lock]) changing
  | claim checked => exact atWork_of_claim atWork he hs
  | turn holds idle => exact atWork_of_turn atWork he holds idle hs
  | send waits purpose => exact atWork_of_send atWork hf purpose hs
  | unmade waits purpose => exact atWork_of_unmade atWork he hf waits purpose hs
  | reply purpose => exact atWork_of_reply atWork he purpose hs
  | drop => exact atWork_of_drop atWork he

end AtWork

/-- While a change is being made its request is to be made or under way, and no other request for
a change ever is. -/
theorem atWork (run : Run) (n : Nat) : AtWork (run.state n) (run.changesAwaiting n) := by
  induction n with
  | zero =>
    obtain ⟨settings, hm⟩ := run.made
    have errands : (run.state 0).errands = [] := (initial_of_ofSettings hm).2.2
    have none_waits : run.changesAwaiting 0 = [] := by
      rw [changesAwaiting, changeErrands, errands]
      rfl
    rw [none_waits]
    exact .idle (idle_of_ofSettings hm) rfl
  | succ n ih =>
    rcases run.step_cases n with ⟨he, hs, hf⟩ | ⟨event, he, t⟩
    · have same : run.changesAwaiting (n + 1) = run.changesAwaiting n := by
        rw [changesAwaiting, hs, changeExchanges_of_quiet (by simp [hf]) (by simp [he])
          (by simp [he]), changesAwaiting]
      rw [same, hs]
      exact ih
    · exact atWork_of_step ih he t.changeStep

theorem holder_of_changeErrand {n : Nat} {errand : Errand} {change : Change}
    (waits : errand ∈ (run.state n).errands) (purpose : errand.purpose = .change change) :
    (run.state n).changes.holder = some ⟨errand.call, change⟩ := by
  obtain ⟨pending, holds, -, rfl, -⟩ :=
    alone_of_changeErrand (run.atWork n) waits (by rw [purpose]; rfl)
  obtain rfl : pending.change = change := Purpose.change.inj purpose
  exact holds

theorem holder_of_changeExchange {n : Nat} {exchange : Exchange} {change : Change}
    (flies : exchange ∈ run.inFlight n) (purpose : exchange.purpose = .change change) :
    (run.state n).changes.holder = some ⟨exchange.call, change⟩ := by
  obtain ⟨pending, holds, -, same, -⟩ :=
    alone_of_changeExchange (run.atWork n) flies (by rw [purpose]; rfl)
  obtain ⟨⟨call, _⟩, request⟩ := exchange
  dsimp only at purpose
  subst purpose
  cases same
  exact holds

/-! ## Leaving the lock -/

/-- A change whose request is let through and is not sent has ended. -/
theorem changes_of_unsent {n : Nat} {errand : Errand} {change : Change}
    (he : run.event n = some (.dispatch errand)) (waits : errand ∈ (run.state n).errands)
    (purpose : errand.purpose = .change change)
    (unsent : ∀ exchange, run.effect n ≠ some (.send exchange)) :
    (run.state (n + 1)).changes = (run.state n).changes.release := by
  cases made : (run.state n).request errand.purpose with
  | ok request =>
    have sends : run.effect n = some (.send ⟨errand, request⟩) := send_of_dispatch he waits made
    exact absurd sends (unsent _)
  | error failure =>
    rw [purpose] at made
    rw [state_succ he, step, dispatch, if_pos waits]
    simp only [abort, purpose, made]
    rfl

theorem changes_of_receive {n : Nat} {exchange : Exchange} {reply : Option Reply} {change : Change}
    (he : run.event n = some (.receive exchange reply))
    (purpose : exchange.purpose = .change change) :
    (run.state (n + 1)).changes = (run.state n).changes.release := by
  rw [state_succ he, step, receive, purpose]
  exact ((run.state n).receiveChange_frame exchange change reply).1

section Answers

variable {j k call : Nat} {request : ChangeRequest} {result : Except Failure Answer}
  (hj : run.event j = some (.start call (.change request)))
include hj

/-- Requests for a call that asks for a change are for that change. -/
theorem change_of_makes {m : Nat} {operation : Operation} {purpose : Purpose}
    (hm : run.event m = some (.start call operation)) (makes : operation.Makes purpose) :
    ∃ change, request.check = .ok change ∧ purpose = .change change := by
  obtain ⟨-, rfl⟩ := start_unique hj hm
  cases makes with
  | read reads => cases reads
  | refresh refreshes => cases refreshes
  | other posts => cases posts
  | change checked => exact ⟨_, checked, rfl⟩

/-- The call is answered in the step it begins in only if it is refused. -/
theorem refusal_of_answer (hk : run.effect j = some (.answer call result)) :
    ∃ reason, request.check = .error reason ∧ result = .error (.invalid reason) := by
  rw [effect_eq hj, step, start] at hk
  cases checked : request.check with
  | ok change =>
    rw [checked] at hk
    cases hk
  | error reason =>
    rw [checked] at hk
    cases hk
    exact ⟨reason, rfl, rfl⟩

/-- A call for a change is refused when it begins, or is the first at the lock when it is answered,
and leaves it then. -/
theorem answer_of_change (hk : run.effect k = some (.answer call result)) :
    (k = j ∧ ∃ reason, request.check = .error reason ∧ result = .error (.invalid reason)) ∨
    ∃ pending, pending.call = call ∧ (run.state k).changes.holder = some pending ∧
      (run.state (k + 1)).changes = (run.state k).changes.release := by
  obtain ⟨event, he, t⟩ := run.event_of_effect hk
  rcases t.answer_cases with ⟨key, outcome, hc, -⟩ | ⟨operation, rfl, -, -⟩ |
    ⟨errand, waits, rfl, rfl, -⟩ | ⟨exchange, reply, rfl, rfl, -⟩
  · -- the caches answer no calls for changes
    rw [← listing_effect run key he] at hc
    obtain ⟨m, -, hb⟩ := Cache.Run.begins_of_answer hc
    obtain ⟨asked, hm, reads⟩ := run.start_of_begins hb
    obtain ⟨-, rfl⟩ := start_unique hj hm
    rcases reads with reads | reads <;> cases reads
  · obtain ⟨rfl, rfl⟩ := start_unique hj he
    exact .inl ⟨rfl, refusal_of_answer hj hk⟩
  · obtain ⟨m, -, operation, hm, makes⟩ := errand_origin waits
    obtain ⟨change, -, purpose⟩ := change_of_makes hj hm makes
    exact .inr ⟨_, rfl, holder_of_changeErrand waits purpose,
      changes_of_unsent he waits purpose (by simp [hk])⟩
  · obtain ⟨m, -, operation, hm, makes⟩ := exchange_origin (run.heard he)
    obtain ⟨change, -, purpose⟩ := change_of_makes hj hm makes
    exact .inr ⟨_, rfl, holder_of_changeExchange (run.heard he) purpose,
      changes_of_receive he purpose⟩

/-- A call that has been answered is not at the lock any more. -/
theorem not_mem_changes_of_answer (hk : run.effect k = some (.answer call result)) {n : Nat}
    (hkn : k < n) {pending : PendingChange} (h : pending ∈ (run.state n).changes.queue) :
    pending.call ≠ call := by
  rintro rfl
  rcases answer_of_change hj hk with ⟨-, reason, refused, -⟩ | ⟨first, same, holds, released⟩
  · exact unclaimed_of_refused hj (.change refused) h rfl
  · obtain ⟨i, hi, _, hs, -⟩ := change_origin (FairLock.mem_queue_of_holder holds)
    obtain ⟨rfl, -⟩ := start_unique hj (same ▸ hs)
    have still := mem_changes_of_later hj (Nat.lt_succ_of_lt hi) hkn h
    -- it would stand in the queue behind itself
    have ordered := run.changes_ordered k
    rw [Nat.succ_eq_add_one, released, FairLock.queue_release (run.changes_fair k),
      FairLock.queue_of_holder holds, List.tail_cons] at still
    rw [FairLock.queue_of_holder holds, List.pairwise_cons] at ordered
    exact (ordered.1 pending still).ne same

/-- The call is answered at most once. -/
theorem answer_of_change_unique (hk : run.effect k = some (.answer call result)) {n : Nat}
    {other : Except Failure Answer} (hn : run.effect n = some (.answer call other)) : k = n := by
  have once : ∀ {k n : Nat} {result other : Except Failure Answer},
      run.effect k = some (.answer call result) → run.effect n = some (.answer call other) →
      ¬ k < n := by
    intro k n result other hk hn hkn
    rcases answer_of_change hj hn with ⟨rfl, -⟩ | ⟨pending, same, holds, -⟩
    · rcases answer_of_change hj hk with ⟨rfl, -⟩ | ⟨first, same, holds, -⟩
      · exact lt_irrefl _ hkn
      · obtain ⟨i, hi, _, hs, -⟩ := change_origin (FairLock.mem_queue_of_holder holds)
        have := (start_unique hj (same ▸ hs)).1
        omega
    · exact not_mem_changes_of_answer hj hk hkn (FairLock.mem_queue_of_holder holds) same
  have h1 := once hk hn
  have h2 := once hn hk
  omega

end Answers

end Run

end Client

end Fleet

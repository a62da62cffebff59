/-
What reaches the backend has been checked (`checked`). A request with a body carries the checked
copy of the caller's draft, a request for one blueprint goes to the path of a checked id, and a
call that is refused is refused at once: it asks for no turn, sends nothing and touches no listing.
-/
import Fleet.Proofs.Blueprint.Draft
import Fleet.Proofs.Client.Change
import Fleet.Proofs.Client.ResourceId

namespace Fleet

/-! ## Checked changes -/

namespace ChangeRequest

/-- The draft a change is asked for with. -/
def draft? : ChangeRequest → Option Draft
  | create draft | update _ draft => some draft
  | delete _ => none

/-- The change is the one asked for, with its id and its draft checked. -/
inductive Checks : ChangeRequest → Change → Prop where
  | create {draft copy : Draft} (copied : draft.validate = .ok copy) :
    Checks (.create draft) (.create copy)
  | update {text : String} {id : ResourceId} {draft copy : Draft}
      (accepted : ResourceId.ofText text = .ok id) (copied : draft.validate = .ok copy) :
    Checks (.update text draft) (.update id copy)
  | delete {text : String} {id : ResourceId} (accepted : ResourceId.ofText text = .ok id) :
    Checks (.delete text) (.delete id)

theorem checks_of_check {request : ChangeRequest} {change : Change}
    (checked : request.check = .ok change) : request.Checks change := by
  cases request with
  | create draft =>
    obtain ⟨copy, copied, made⟩ := bind_eq_ok_iff.1 checked
    cases made
    exact .create (ok_of_mapError copied)
  | update text draft =>
    obtain ⟨id, accepted, checked⟩ := bind_eq_ok_iff.1 checked
    obtain ⟨copy, copied, made⟩ := bind_eq_ok_iff.1 checked
    cases made
    exact .update (ok_of_mapError accepted) (ok_of_mapError copied)
  | delete text =>
    obtain ⟨id, accepted, made⟩ := bind_eq_ok_iff.1 checked
    cases made
    exact .delete (ok_of_mapError accepted)

end ChangeRequest

namespace Operation

/-- The id of the blueprint an operation is for. -/
def id? : Operation → Option String
  | blueprint id | change (.update id _) | change (.delete id) => some id
  | _ => none

/-- Whether an operation is checked before anything is asked for. -/
def isChecked : Operation → Bool
  | blueprint _ | change _ => true
  | _ => false

variable {operation : Operation} {purpose : Purpose}

theorem unlisted_of_isChecked (h : operation.isChecked) :
    operation.reads? = none ∧ operation.refreshes? = none := by
  cases operation <;> first | exact ⟨rfl, rfl⟩ | cases h

theorem Refused.isChecked {reason : Invalid} (h : operation.Refused reason) :
    operation.isChecked := by
  cases h <;> rfl

/-- A checked operation leads to a request for the checked id or the checked change. -/
theorem Makes.checked_cases (makes : operation.Makes purpose) (h : operation.isChecked) :
    (∃ text id, operation = .blueprint text ∧ ResourceId.ofText text = .ok id ∧
      purpose = .blueprint id) ∨
    ∃ request change, operation = .change request ∧ request.check = .ok change ∧
      purpose = .change change := by
  obtain ⟨unread, unrefreshed⟩ := unlisted_of_isChecked h
  cases makes with
  | read reads =>
    rw [reads] at unread
    cases unread
  | refresh refreshes =>
    rw [refreshes] at unrefreshed
    cases unrefreshed
  | other posts =>
    cases posts with
    | blueprint accepted => exact .inl ⟨_, _, rfl, accepted, rfl⟩
    | value => cases h
  | change checked => exact .inr ⟨_, _, rfl, checked, rfl⟩

/-- A refused operation leads to no request. -/
theorem Makes.not_refused (makes : operation.Makes purpose) (reason : Invalid) :
    ¬ operation.Refused reason := by
  intro refused
  rcases makes.checked_cases refused.isChecked with ⟨text, id, rfl, accepted, -⟩ |
    ⟨request, change, rfl, accepted, -⟩
  · cases refused with
    | blueprint failed =>
      rw [accepted] at failed
      cases failed
  · cases refused with
    | change failed =>
      rw [accepted] at failed
      cases failed

/-- The request of an operation on one blueprint goes to the path of the checked id. -/
theorem Makes.path_eq {text : String} (makes : operation.Makes purpose)
    (hid : operation.id? = some text) :
    ∃ id, ResourceId.ofText text = .ok id ∧ purpose.path = blueprintPath id := by
  have checked : operation.isChecked := by
    cases operation <;> first | rfl | cases hid
  rcases makes.checked_cases checked with ⟨_, id, rfl, accepted, rfl⟩ |
    ⟨request, change, rfl, checked, rfl⟩
  · cases hid
    exact ⟨id, accepted, rfl⟩
  · cases ChangeRequest.checks_of_check checked with
    | create => cases hid
    | update accepted | delete accepted =>
      cases hid
      exact ⟨_, accepted, rfl⟩

/-- The body of a request is the checked copy of the draft of the change it is for. -/
theorem Makes.body_cases {sent : Draft} (makes : operation.Makes purpose)
    (hb : purpose.body = some sent) :
    ∃ request draft, operation = .change request ∧ request.draft? = some draft ∧
      draft.validate = .ok sent := by
  cases makes with
  | read | refresh => cases hb
  | other posts => cases posts <;> cases hb
  | change checked =>
    cases ChangeRequest.checks_of_check checked with
    | create copied | update _ copied =>
      cases hb
      exact ⟨_, _, rfl, rfl, copied⟩
    | delete => cases hb

end Operation

/-- Requests of a checked operation go to the blueprints or below them. -/
theorem Purpose.head?_path {operation : Operation} {purpose : Purpose}
    (makes : operation.Makes purpose) (h : operation.isChecked) :
    purpose.path.toList.head? = some '/' := by
  rcases makes.checked_cases h with ⟨_, id, -, -, rfl⟩ | ⟨_, change, -, -, rfl⟩
  · exact head?_blueprintPath id
  · exact change.head?_path

/-! ## Refusals -/

/-- No reply is a refusal of the client itself. -/
theorem Exchange.result_ne_invalid {α : Type} (exchange : Exchange) (decode? : Reply → Option α)
    (reply : Option Reply) (reason : Invalid) :
    exchange.result decode? reply ≠ .error (.invalid reason) := by
  intro h
  cases reply with
  | none => cases h
  | some reply =>
    simp only [Exchange.result] at h
    split at h
    · split at h <;> cases h
    · simp only [Reply.refusal] at h
      split at h <;> cases h

/-- Requests to a path with a slash at its start are not refused by the client itself. -/
theorem ApiBase.requestUrl_ne_invalid {base : ApiBase} {path : String}
    (slash : path.toList.head? = some '/') (reason : Invalid) :
    base.requestUrl path ≠ .error (.invalid reason) := by
  intro h
  have endpoint : base.endpoint path = .ok (base.text ++ path) := if_pos (by simp [slash])
  unfold requestUrl at h
  rw [endpoint] at h
  simp only [Except.mapError, bind, Except.bind] at h
  split at h
  · rename_i hp
    split at hp <;> cases hp
    cases h
  · split at h <;> cases h

namespace Client

theorem request_ne_invalid {client : Client} {operation : Operation} {purpose : Purpose}
    (makes : operation.Makes purpose) (h : operation.isChecked) (reason : Invalid) :
    client.request purpose ≠ .error (.invalid reason) := by
  have unrefused := client.base.requestUrl_ne_invalid (Purpose.head?_path makes h) reason
  unfold Client.request
  intro hr
  cases hu : client.base.requestUrl purpose.path with
  | ok url =>
    rw [hu] at hr
    cases hr
  | error failure =>
    rw [hu] at hr
    cases hr
    exact unrefused hu

/-- A refusal comes from a cache, or the call is refused in the step it begins in, or a request
that is for no listing cannot be made. -/
theorem Transition.invalid_cases {client next : Client} {now call : Nat} {event : Event}
    {reason : Invalid}
    (t : Transition client now event next (some (.answer call (.error (.invalid reason))))) :
    (∃ key outcome, client.cacheEffect? key now event = some (.answer call outcome)) ∨
    (∃ operation, event = .start call operation ∧ operation.Refused reason ∧ next = client) ∨
    (∃ errand ∈ client.errands, errand.call = call ∧
      client.request errand.purpose = .error (.invalid reason)) := by
  generalize hf : some (Effect.answer call (.error (.invalid reason))) = effect at t
  cases t with
  | listing touches =>
    obtain ⟨outcome, hc, -⟩ := touches.cacheEffect?_of_answer hf.symm
    exact .inl ⟨_, outcome, hc⟩
  | refuse refused =>
    cases hf
    exact .inr (.inl ⟨_, rfl, refused, rfl⟩)
  | abort waits unlisted unmade =>
    cases hf
    exact .inr (.inr ⟨_, waits, rfl, unmade⟩)
  | @reply exchange reply result answers =>
    -- a reply may be unusable, but it is no refusal
    simp only [Option.some.injEq, Effect.answer.injEq] at hf
    cases answers with
    | blueprint | value => exact absurd hf.2.symm (exchange.result_ne_invalid _ _ _)
  | @change exchange =>
    simp only [Option.some.injEq, Effect.answer.injEq] at hf
    exact absurd hf.2.symm (exchange.result_ne_invalid _ _ _)
  | invalidate | setSession | peek | post | claim | proceed | send | idle | drop => cases hf

namespace Run

variable {run : Run}

/-! ## What is sent -/

/-- The request carries the checked copy of the draft that its call began with. -/
structure Submits (run : Run) (n : Nat) (exchange : Exchange) (sent : Draft) : Prop where
  /-- The copy is what checking makes of the caller's draft. -/
  copied : ∃ j < n, ∃ request draft, run.event j = some (.start exchange.call (.change request)) ∧
    request.draft? = some draft ∧ draft.validate = .ok sent ∧ draft.Trims sent
  /-- Its texts are not blank and trimmed, and its payload is an object. -/
  submittable : sent.Submittable
  /-- Checking it once more changes nothing. -/
  fixed : sent.validate = .ok sent
  form : sent.toJson = .object [("name", .text sent.name), ("os", .text sent.os),
    ("version", .text sent.version), ("data", sent.data)]

/-- The request goes to the path of the checked id. -/
structure Addresses (run : Run) (exchange : Exchange) (text : String) : Prop where
  url : Url.parse (run.initial.base.text ++ "/v1/blueprints/" ++ Text.trim text) =
    .ok exchange.request.url
  admissible : ResourceId.Admissible (Text.trim text)

/-- A call that is refused: it is answered at once, and that is all. -/
structure RefusedAtOnce (run : Run) (j k call : Nat) : Prop where
  atOnce : k = j
  unsent : ∀ {n : Nat} {exchange : Exchange}, run.effect n = some (.send exchange) →
    exchange.call ≠ call
  /-- The call never asks for its turn to change blueprints. -/
  unclaimed : ∀ {n : Nat} {pending : PendingChange}, pending ∈ (run.state n).changes.queue →
    pending.call ≠ call
  untouched : ∀ key, (run.state (j + 1)).cache key = (run.state j).cache key
  unchanged : run.state (j + 1) = run.state j

/-- Whatever is sent has been checked, and whatever is refused is refused at once. -/
structure Checked (run : Run) : Prop where
  /-- Exactly the requests that post or put have a body, and it is a checked copy. -/
  bodies : ∀ {n : Nat} {exchange : Exchange}, run.effect n = some (.send exchange) →
    if exchange.request.method = .post ∨ exchange.request.method = .put then
      ∃ sent, exchange.request.body = some sent ∧ run.Submits n exchange sent
    else exchange.request.body = none
  urls : ∀ {j n : Nat} {operation : Operation} {exchange : Exchange} {text : String},
    run.event j = some (.start exchange.call operation) → operation.id? = some text →
    run.effect n = some (.send exchange) → run.Addresses exchange text
  refusals : ∀ {j k call : Nat} {operation : Operation} {reason : Invalid},
    run.event j = some (.start call operation) → operation.isChecked →
    run.effect k = some (.answer call (.error (.invalid reason))) → run.RefusedAtOnce j k call

theorem makes_of_send {n : Nat} {exchange : Exchange} (h : run.effect n = some (.send exchange)) :
    ∃ j < n, ∃ operation, run.event j = some (.start exchange.call operation) ∧
      operation.Makes exchange.purpose :=
  errand_origin (dispatch_of_send h).2.1

theorem request_of_send {n : Nat} {exchange : Exchange}
    (h : run.effect n = some (.send exchange)) :
    ∃ url, run.initial.base.requestUrl exchange.purpose.path = .ok url ∧
      exchange.request =
        ⟨exchange.purpose.method, url, (run.state n).session, exchange.purpose.body⟩ := by
  obtain ⟨-, -, made⟩ := dispatch_of_send h
  rw [← run.base_eq n]
  exact request_eq_ok_iff.1 made

theorem submits_of_body {n : Nat} {exchange : Exchange} {sent : Draft}
    (h : run.effect n = some (.send exchange)) (hb : exchange.purpose.body = some sent) :
    run.Submits n exchange sent := by
  obtain ⟨j, hj, operation, he, makes⟩ := makes_of_send h
  obtain ⟨request, draft, rfl, hd, copied⟩ := makes.body_cases hb
  obtain ⟨trims, submittable⟩ := Draft.validate_eq_ok_iff.1 copied
  exact ⟨⟨j, hj, request, draft, he, hd, copied, trims⟩, submittable,
    Draft.validate_of_submittable submittable, rfl⟩

theorem bodies_of_send {n : Nat} {exchange : Exchange}
    (h : run.effect n = some (.send exchange)) :
    if exchange.request.method = .post ∨ exchange.request.method = .put then
      ∃ sent, exchange.request.body = some sent ∧ run.Submits n exchange sent
    else exchange.request.body = none := by
  obtain ⟨url, -, made⟩ := request_of_send h
  have submits : ∀ sent, exchange.purpose.body = some sent → run.Submits n exchange sent :=
    fun sent => submits_of_body h
  rw [made]
  cases hp : exchange.purpose with
  | listing | blueprint | value => rfl
  | change change =>
    rw [hp] at submits
    cases change with
    | create sent | update _ sent => exact ⟨sent, rfl, submits sent rfl⟩
    | delete => rfl

theorem addresses_of_send {j n : Nat} {operation : Operation} {exchange : Exchange}
    {text : String} (he : run.event j = some (.start exchange.call operation))
    (hid : operation.id? = some text) (h : run.effect n = some (.send exchange)) :
    run.Addresses exchange text := by
  obtain ⟨i, -, other, hi, makes⟩ := makes_of_send h
  obtain ⟨-, rfl⟩ := start_unique he hi
  obtain ⟨id, accepted, path⟩ := makes.path_eq hid
  have trimmed := ResourceId.text_of_ofText accepted
  obtain ⟨url, hu, made⟩ := request_of_send h
  rw [path, ApiBase.requestUrl_eq_ok_iff (head?_blueprintPath id)] at hu
  constructor
  · have spelled : "/v1/blueprints/" ++ Text.trim text = blueprintPath id := by
      rw [← trimmed]
      rfl
    rw [String.append_assoc, spelled, hu.1, made]
  · exact ResourceId.exists_ofText_iff.1 ⟨id, accepted⟩

/-! ## What is refused -/

section Refused

variable {j call : Nat} {operation : Operation} {reason : Invalid}
  (hj : run.event j = some (.start call operation))
include hj

/-- A checked call that is refused is refused in the step it begins in. -/
theorem refused_of_invalid {k : Nat} (h : operation.isChecked)
    (hk : run.effect k = some (.answer call (.error (.invalid reason)))) :
    k = j ∧ operation.Refused reason ∧ run.state (j + 1) = run.state j := by
  obtain ⟨event, he, t⟩ := run.event_of_effect hk
  rcases t.invalid_cases with ⟨key, outcome, hc⟩ | ⟨other, rfl, refused, same⟩ |
    ⟨errand, waits, rfl, unmade⟩
  · -- only calls that read or refresh a listing are answered by a cache
    rw [← listing_effect run key he] at hc
    obtain ⟨m, -, hb⟩ := Cache.Run.begins_of_answer hc
    obtain ⟨asked, hm, reads⟩ := run.start_of_begins hb
    obtain ⟨-, rfl⟩ := start_unique hj hm
    obtain ⟨unread, unrefreshed⟩ := Operation.unlisted_of_isChecked h
    rw [unread, unrefreshed] at reads
    rcases reads with reads | reads <;> cases reads
  · obtain ⟨rfl, rfl⟩ := start_unique hj he
    exact ⟨rfl, refused, same⟩
  · obtain ⟨m, -, asked, hm, makes⟩ := errand_origin waits
    obtain ⟨-, rfl⟩ := start_unique hj hm
    exact absurd unmade (request_ne_invalid makes h reason)

theorem unsent_of_refused (refused : operation.Refused reason) {n : Nat} {exchange : Exchange}
    (h : run.effect n = some (.send exchange)) : exchange.call ≠ call := by
  rintro rfl
  obtain ⟨i, -, other, hi, makes⟩ := makes_of_send h
  obtain ⟨-, rfl⟩ := start_unique hj hi
  exact makes.not_refused reason refused

theorem unclaimed_of_refused (refused : operation.Refused reason) {n : Nat}
    {pending : PendingChange} (h : pending ∈ (run.state n).changes.queue) :
    pending.call ≠ call := by
  rintro rfl
  obtain ⟨i, -, request, hi, checked⟩ := change_origin h
  obtain ⟨-, rfl⟩ := start_unique hj hi
  exact (Operation.Makes.change checked).not_refused reason refused

end Refused

/-- In every run whatever is sent has been checked, and whatever is refused is refused at once. -/
theorem checked (run : Run) : run.Checked where
  bodies := bodies_of_send
  urls := addresses_of_send
  refusals := by
    intro j k call operation reason hj h hk
    obtain ⟨atOnce, refused, same⟩ := refused_of_invalid hj h hk
    exact ⟨atOnce, unsent_of_refused hj refused, unclaimed_of_refused hj refused,
      fun key => by rw [same], same⟩

def blankDraft : Draft := ⟨" base ", "rhel", "9.4\u00a0", .null⟩

/-- What is submitted of this draft. -/
def trimmedDraft : Draft := ⟨"base", "rhel", "9.4", .object []⟩

def submitsExchange : Exchange :=
  plainExchange 1 (.change (.update plainId trimmedDraft)) ["blueprints", "b1"]

/-- The deletion of a blueprint is asked for with an id that may not stand in a path, and then
another one is replaced. -/
def submits : Run := ofEvents plainSettings isOk_plainSettings
  [.start 0 (.change (.delete "a/b")), .start 1 (.change (.update " b1 " blankDraft)),
    .dispatch submitsExchange.toErrand]
  (by decide) (by decide +kernel)

theorem submits_checked :
    (∃ reason, submits.effect 0 = some (.answer 0 (.error (.invalid reason)))) ∧
    submits.RefusedAtOnce 0 0 0 ∧
    submits.effect 2 = some (.send submitsExchange) ∧
    submits.Submits 2 submitsExchange trimmedDraft ∧ submits.Addresses submitsExchange " b1 " := by
  obtain ⟨bodies, urls, refusals⟩ := checked submits
  have refused : submits.effect 0 = some (.answer 0 (.error (.invalid
      (ResourceId.Fault.forbidden "a/b").toInvalid))) := rfl
  have sent : submits.effect 2 = some (.send submitsExchange) :=
    send_of_dispatch rfl (by decide +kernel) (by decide +kernel)
  have body := bodies sent
  rw [if_pos (.inr rfl)] at body
  obtain ⟨copy, same, copied⟩ := body
  obtain rfl := Option.some.inj same
  have begun : submits.event 1 =
      some (.start submitsExchange.call (.change (.update " b1 " blankDraft))) := rfl
  exact ⟨⟨_, refused⟩, refusals rfl rfl refused, sent, copied, urls begun rfl sent⟩

end Run

end Client

end Fleet

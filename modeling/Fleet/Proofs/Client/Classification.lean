/-
What a reply comes to. An operation that has sent a request makes one of four things of the reply:
the backend refused the credentials, it refused the request, it accepted the request and its body
cannot be used, or it accepted the request and the body holds an answer. Which of them is said by
the status and the body alone (`replies_classified`).
-/
import Fleet.Proofs.Blueprint.Listing
import Fleet.Proofs.Client.Replies
import Fleet.Proofs.Client.Session
import Fleet.Proofs.Client.Submission

namespace Fleet

/-! ## What a body holds -/

namespace Reply

variable {reply : Reply}

/-- The status is that of an accepted request. -/
def Accepted (reply : Reply) : Prop := 200 ≤ reply.status ∧ reply.status ≤ 299

/-- The status is that of refused credentials. -/
def DeniesAccess (reply : Reply) : Prop := reply.status = 401 ∨ reply.status = 403

/-- The body is complete, and it is this JSON. -/
def HoldsJson (reply : Reply) (value : Json) : Prop :=
  ∃ body, reply.body = some body ∧ Json.read body = .ok value

/-- The body is complete, and it is a record with the blueprint as its field. -/
def HoldsBlueprint (reply : Reply) (blueprint : Blueprint) : Prop :=
  ∃ body value field inner, reply.body = some body ∧
    Json.readAs blueprintShape body = .ok value ∧ Json.HasFields ["blueprint"] value field ∧
    field "blueprint" = some inner ∧ blueprint.SpelledBy inner

/-- The body is a record with the text as its error. -/
def Reports (reply : Reply) (text : String) : Prop :=
  ∃ value field, Json.readAs errorShape reply.text = .ok value ∧
    Json.HasFields ["error"] value field ∧ field "error" = some (.text text)

/-- The text of a refusal: the error of the body without the white space around it, or else, if
the body reports no error or a blank one, a text with the status. -/
inductive Refuses (reply : Reply) : String → Prop where
  | reported {text : String} (reports : reply.Reports text)
      (filled : ∃ c ∈ text.toList, Text.isBlank c = false) : Refuses reply (Text.trim text)
  | unreported (unfilled : ∀ text, reply.Reports text → ∀ c ∈ text.toList, Text.isBlank c = true) :
    Refuses reply s!"Request failed with status {reply.status}"

theorem isAccepted_iff : reply.isAccepted = true ↔ reply.Accepted := by
  simp [isAccepted, Accepted]

theorem json?_eq_some_iff {value : Json} : reply.json? = some value ↔ reply.HoldsJson value := by
  simp only [json?, HoldsJson, Option.bind_eq_bind, Option.bind_eq_some_iff, toOption_eq_some_iff]

theorem blueprint?_eq_some_iff {blueprint : Blueprint} :
    reply.blueprint? = some blueprint ↔ reply.HoldsBlueprint blueprint := by
  constructor
  · intro h
    obtain ⟨body, hb, h⟩ := Option.bind_eq_some_iff.1 h
    obtain ⟨value, read, h⟩ := Option.bind_eq_some_iff.1 h
    obtain ⟨fields, found, h⟩ := Option.bind_eq_some_iff.1 h
    obtain ⟨inner, under, spelled⟩ := Json.required?_eq_some_iff.1 h
    exact ⟨body, value, _, inner, hb, toOption_eq_some_iff.1 read,
      Json.hasFields_of_fields? found, under, Blueprint.ofJson?_eq_some_iff.1 spelled⟩
  · rintro ⟨body, value, field, inner, hb, read, has, under, spelled⟩
    obtain ⟨fields, found, look⟩ := has.fields?
    rw [← look] at under
    refine Option.bind_eq_some_iff.2 ⟨body, hb, Option.bind_eq_some_iff.2
      ⟨value, toOption_eq_some_iff.2 read, Option.bind_eq_some_iff.2 ⟨fields, found, ?_⟩⟩⟩
    exact Json.required?_eq_some_iff.2 ⟨inner, under, Blueprint.ofJson?_eq_some_iff.2 spelled⟩

theorem reportedError?_eq_some_iff {text : String} :
    reportedError? reply.text = some text ↔
      ∃ given, reply.Reports given ∧ Text.nonBlank? given = some text := by
  constructor
  · intro h
    obtain ⟨value, read, h⟩ := Option.bind_eq_some_iff.1 h
    obtain ⟨fields, found, h⟩ := Option.bind_eq_some_iff.1 h
    obtain ⟨reported, optional, h⟩ := Option.bind_eq_some_iff.1 h
    obtain ⟨given, rfl, trimmed⟩ := Option.bind_eq_some_iff.1 h
    exact ⟨given, ⟨value, _, toOption_eq_some_iff.1 read, Json.hasFields_of_fields? found,
      Json.optional?_text_eq_some_iff.1 optional⟩, trimmed⟩
  · rintro ⟨given, ⟨value, field, read, has, under⟩, trimmed⟩
    obtain ⟨fields, found, look⟩ := has.fields?
    rw [← look] at under
    have optional := Json.optional?_text_eq_some_iff.2 under
    unfold reportedError?
    rw [read]
    simp only [Except.toOption, Option.bind_eq_bind, Option.bind_some, found, optional, trimmed]

/-- No error is read from a body if it reports none, or a blank one. -/
theorem reportedError?_eq_none_iff :
    reportedError? reply.text = none ↔
      ∀ text, reply.Reports text → ∀ c ∈ text.toList, Text.isBlank c = true := by
  simp only [Option.eq_none_iff_forall_ne_some, ne_eq, reportedError?_eq_some_iff,
    Text.nonBlank?_eq_some_iff_filled]
  constructor
  · intro unread text reports c hc
    by_contra apart
    exact unread _ ⟨text, reports, ⟨c, hc, Bool.eq_false_of_not_eq_true apart⟩, rfl⟩
  · rintro unfilled _ ⟨text, reports, ⟨c, hc, apart⟩, -⟩
    rw [unfilled text reports c hc] at apart
    cases apart

/-- A body reports one text at most. -/
theorem Reports.unique {text other : String} (h : reply.Reports text) (h' : reply.Reports other) :
    text = other := by
  obtain ⟨value, field, read, has, under⟩ := h
  obtain ⟨value', field', read', has', under'⟩ := h'
  obtain rfl := Except.ok.inj (read.symm.trans read')
  obtain ⟨fields, found, look⟩ := has.fields?
  obtain ⟨fields', found', look'⟩ := has'.fields?
  obtain rfl := Option.some.inj (found.symm.trans found')
  rw [← look] at under
  rw [← look', under] at under'
  cases under'
  rfl

/-! ## Refusals -/

/-- A refusal has a text, -/
theorem refuses_refusalText (reply : Reply) :
    reply.Refuses (refusalText reply.status reply.text) := by
  unfold refusalText
  cases h : reportedError? reply.text with
  | some given =>
    obtain ⟨raw, reports, trimmed⟩ := reportedError?_eq_some_iff.1 h
    obtain ⟨filled, rfl⟩ := Text.nonBlank?_eq_some_iff_filled.1 trimmed
    exact .reported reports filled
  | none => exact .unreported (reportedError?_eq_none_iff.1 h)

/-- and only one. -/
theorem Refuses.unique {text other : String} (h : reply.Refuses text) (h' : reply.Refuses other) :
    text = other := by
  have apart : ∀ {given : String}, reply.Reports given →
      (∃ c ∈ given.toList, Text.isBlank c = false) →
      ¬ ∀ given, reply.Reports given → ∀ c ∈ given.toList, Text.isBlank c = true := by
    rintro given reports ⟨c, hc, filled⟩ unfilled
    rw [unfilled given reports c hc] at filled
    cases filled
  cases h with
  | reported reports filled =>
    cases h' with
    | reported reports' => rw [reports.unique reports']
    | unreported unfilled => exact absurd unfilled (apart reports filled)
  | unreported unfilled =>
    cases h' with
    | reported reports filled => exact absurd unfilled (apart reports filled)
    | unreported => rfl

theorem refuses_iff {text : String} :
    reply.Refuses text ↔ text = refusalText reply.status reply.text := by
  constructor
  · intro refuses
    exact refuses.unique reply.refuses_refusalText
  · rintro rfl
    exact reply.refuses_refusalText

/-- The text of a refusal is not blank. -/
theorem Refuses.filled {text : String} (h : reply.Refuses text) :
    ∃ c ∈ text.toList, Text.isBlank c = false := by
  cases h with
  | reported reports filled =>
    obtain ⟨c, first, apart⟩ := (Text.tidy_trim_iff.2 filled).first
    exact ⟨c, List.mem_of_mem_head? first, apart⟩
  | unreported =>
    have first : 'R' ∈ "Request failed with status ".toList := by decide
    refine ⟨'R', ?_, by decide⟩
    rw [String.toList_append]
    exact List.mem_append_left _ first

section Kinds

variable {text : String}

theorem refusal_eq_authentication_iff :
    reply.refusal = .authentication text ↔ reply.DeniesAccess ∧ reply.Refuses text := by
  simp only [refusal, DeniesAccess, refuses_iff, Bool.or_eq_true, beq_iff_eq]
  split <;> rename_i status <;> simp [status, eq_comm]

theorem refusal_eq_api_iff {status : UInt16} :
    reply.refusal = .api status text ↔
      ¬ reply.DeniesAccess ∧ status = reply.status ∧ reply.Refuses text := by
  simp only [refusal, DeniesAccess, refuses_iff, Bool.or_eq_true, beq_iff_eq]
  split <;> rename_i denied <;> simp [denied, eq_comm]

theorem refusal_ne_payload : reply.refusal ≠ .payload text := by
  unfold refusal
  intro h
  dsimp only at h
  split at h <;> cases h

end Kinds

end Reply

/-! ## Answers -/

/-- Whether the answer to an operation is one stored blueprint. -/
def Operation.givesBlueprint : Operation → Bool
  | blueprint _ | change (.create _) | change (.update _ _) => true
  | _ => false

/-- What an operation has for an answer when its request was accepted. -/
inductive Operation.Accepts (reply : Reply) : Operation → Answer → Prop where
  /-- A listing is shown of JSON of any shape. -/
  | listing {operation : Operation} {body : Json} {answer : Answer} (holds : reply.HoldsJson body)
      (shows : operation.shows? body = some answer) : Accepts reply operation answer
  | blueprint {operation : Operation} {blueprint : Blueprint}
      (gives : operation.givesBlueprint = true) (holds : reply.HoldsBlueprint blueprint) :
    Accepts reply operation (.blueprint blueprint)
  /-- The body counts for nothing after a deletion. -/
  | delete {id : String} : Accepts reply (.change (.delete id)) .done
  | value {path : String} {body : Json} (holds : reply.HoldsJson body) :
    Accepts reply (.value path) (.value body)

theorem Operation.plain_of_givesBlueprint {operation : Operation}
    (gives : operation.givesBlueprint = true) :
    (∀ body, operation.shows? body = none) ∧ ∀ answer, operation.present answer = answer := by
  cases operation <;> first | exact ⟨fun _ => rfl, fun _ => rfl⟩ | cases gives

section Accepted

variable {operation : Operation} {purpose : Purpose} {reply : Reply} {answer : Answer}

theorem accepts_listing_iff {key : ResourceKey}
    (asks : operation.reads? = some key ∨ operation.refreshes? = some key) :
    ((Purpose.listing key).decode? reply).map operation.present = some answer ↔
      operation.Accepts reply answer := by
  have shown := Operation.shows?_of_reads asks
  simp only [Purpose.decode?, Option.map_map, Option.map_eq_some_iff, Reply.json?_eq_some_iff,
    Function.comp_apply]
  constructor
  · rintro ⟨body, holds, rfl⟩
    exact .listing holds (shown body)
  · intro accepts
    cases accepts with
    | listing holds shows =>
      rw [shown] at shows
      exact ⟨_, holds, Option.some.inj shows⟩
    | blueprint gives =>
      have unshown := shown .null
      rw [(Operation.plain_of_givesBlueprint gives).1] at unshown
      cases unshown
    | delete | value => simp at asks

theorem accepts_blueprint_iff (gives : operation.givesBlueprint = true) :
    (reply.blueprint?.map Answer.blueprint).map operation.present = some answer ↔
      operation.Accepts reply answer := by
  obtain ⟨unshown, plain⟩ := Operation.plain_of_givesBlueprint gives
  simp only [Option.map_map, Option.map_eq_some_iff, Reply.blueprint?_eq_some_iff,
    Function.comp_apply, plain]
  constructor
  · rintro ⟨blueprint, holds, rfl⟩
    exact .blueprint gives holds
  · intro accepts
    cases accepts with
    | listing holds shows =>
      rw [unshown] at shows
      cases shows
    | blueprint _ holds => exact ⟨_, holds, rfl⟩
    | delete | value => cases gives

theorem accepts_value_iff {path : String} :
    ((Purpose.value path).decode? reply).map (Operation.value path).present = some answer ↔
      (Operation.value path).Accepts reply answer := by
  have plain : ∀ given, (Operation.value path).present given = given := fun _ => rfl
  simp only [Purpose.decode?, Option.map_map, Option.map_eq_some_iff, Reply.json?_eq_some_iff,
    Function.comp_apply, plain]
  constructor
  · rintro ⟨body, holds, rfl⟩
    exact .value holds
  · intro accepts
    cases accepts with
    | listing holds shows => cases shows
    | blueprint gives => cases gives
    | value holds => exact ⟨_, holds, rfl⟩

theorem accepts_delete_iff {id : String} :
    some Answer.done = some answer ↔ (Operation.change (.delete id)).Accepts reply answer := by
  constructor
  · intro given
    cases given
    exact .delete
  · intro accepts
    cases accepts with
    | listing holds shows => cases shows
    | blueprint gives => cases gives
    | delete => rfl

/-- What the reply to the request of an operation says is what the operation has for an answer. -/
theorem Operation.Makes.accepts_iff (makes : operation.Makes purpose) :
    (purpose.decode? reply).map operation.present = some answer ↔
      operation.Accepts reply answer := by
  cases makes with
  | read reads => exact accepts_listing_iff (.inl reads)
  | refresh refreshes => exact accepts_listing_iff (.inr refreshes)
  | other posts =>
    cases posts with
    | blueprint => exact accepts_blueprint_iff rfl
    | value => exact accepts_value_iff
  | change checked =>
    cases ChangeRequest.checks_of_check checked with
    | create | update => exact accepts_blueprint_iff rfl
    | delete => exact accepts_delete_iff

end Accepted

/-! ## Whole replies -/

/-- The result is what an operation makes of the reply to its request. -/
structure Classified (operation : Operation) (reply : Reply) (result : Except Failure Answer) :
    Prop where
  answered : ∀ answer, result = .ok answer ↔ reply.Accepted ∧ operation.Accepts reply answer
  unusable : (∃ text, result = .error (.payload text)) ↔
    reply.Accepted ∧ ∀ answer, ¬ operation.Accepts reply answer
  denied : ∀ text, result = .error (.authentication text) ↔
    ¬ reply.Accepted ∧ reply.DeniesAccess ∧ reply.Refuses text
  refused : ∀ status text, result = .error (.api status text) ↔
    ¬ reply.Accepted ∧ ¬ reply.DeniesAccess ∧ status = reply.status ∧ reply.Refuses text

theorem classified_result {operation : Operation} {exchange : Exchange} {reply : Reply}
    (makes : operation.Makes exchange.purpose) :
    Classified operation reply
      ((exchange.result exchange.purpose.decode? (some reply)).map operation.present) := by
  have answer_iff : ∀ answer,
      (exchange.purpose.decode? reply).map operation.present = some answer ↔
        operation.Accepts reply answer := fun _ => makes.accepts_iff
  rw [Exchange.map_result]
  cases accepted : reply.isAccepted with
  | true =>
    have met := Reply.isAccepted_iff.1 accepted
    rw [Exchange.result_of_accepted accepted]
    cases decoded : (exchange.purpose.decode? reply).map operation.present with
    | some answer =>
      have first := (answer_iff answer).1 decoded
      constructor
      case answered =>
        intro other
        rw [← answer_iff, decoded]
        simp [met]
      case unusable => simpa [met] using ⟨answer, first⟩
      case denied | refused => simp [met]
    | none =>
      have unusable : ∀ answer, ¬ operation.Accepts reply answer := by
        intro answer accepts
        rw [← answer_iff, decoded] at accepts
        cases accepts
      constructor
      case answered => simpa using fun answer _ => unusable answer
      case unusable => simpa [met, Exchange.unusable] using unusable
      case denied | refused => simp [met, Exchange.unusable]
  | false =>
    have unmet : ¬ reply.Accepted := fun met => by
      rw [Reply.isAccepted_iff.2 met] at accepted
      cases accepted
    rw [Exchange.result_of_refused accepted]
    constructor
    case answered => simp [unmet]
    case unusable => simp [unmet, Reply.refusal_ne_payload]
    case denied => simp [unmet, Reply.refusal_eq_authentication_iff]
    case refused => simp [unmet, Reply.refusal_eq_api_iff]

namespace Client.Run

/-- Every reply answers the call that sent the request, and what the answer is, is said by the
operation, the status and the body. Listings take JSON of any shape, and what is no array of
entries is an empty listing. A refusal has one text, and it is not blank. -/
theorem replies_classified :
    (∀ (run : Run) (n : Nat) (exchange : Exchange) (reply : Reply),
      run.event n = some (.receive exchange (some reply)) →
      ∃ j operation result, j < n ∧ run.event j = some (.start exchange.call operation) ∧
        operation.Makes exchange.purpose ∧ run.effect n = some (.answer exchange.call result) ∧
        Classified operation reply (result.map operation.present)) ∧
    (∀ (operation : Operation) (key : ResourceKey),
      operation.reads? = some key ∨ operation.refreshes? = some key → ∀ body,
      operation.shows? body =
        some (operation.present (Answer.listing key (Listing.decode key body))) ∧
      ((∀ items, body.get? key.name ≠ some (.array items)) → Listing.decode key body = [])) ∧
    ∀ reply : Reply, ∃ text, reply.Refuses text ∧ (∃ c ∈ text.toList, Text.isBlank c = false) ∧
      ∀ other, reply.Refuses other → other = text := by
  refine ⟨fun run n exchange reply he => ?_, fun operation key asks body =>
    ⟨Operation.shows?_of_reads asks body, Listing.decode_of_no_array⟩, fun reply => ?_⟩
  · obtain ⟨j, hj, operation, starts, makes⟩ := exchange_origin (run.heard he)
    exact ⟨j, operation, _, hj, starts, makes, effect_of_receive he, classified_result makes⟩
  · have refuses := reply.refuses_refusalText
    exact ⟨_, refuses, refuses.filled, fun other h => h.unique refuses⟩

def guardedExchange : Exchange where
  call := 0
  purpose := .blueprint plainId
  request := {
    method := .get
    url := {
      scheme := "http"
      host := some (.domain "hub")
      path := .segments ["api", "v1", "blueprints", "b1"] }
    cookie := none
    body := none }

/-- A blueprint is asked for, and the backend refuses the credentials without saying why. -/
def guarded : Run :=
  ofEvents { origin := some "http://hub" } (by decide +kernel)
    [.start 0 (.blueprint "b1"), .dispatch guardedExchange.toErrand,
      .receive guardedExchange (some ⟨403, none⟩)]
    (by decide) (by decide +kernel)

theorem guarded_classified :
    guarded.event 2 = some (.receive guardedExchange (some ⟨403, none⟩)) ∧
    guarded.effect 2 =
      some (.answer 0 (.error (.authentication "Request failed with status 403"))) := by
  have refuses : Reply.Refuses ⟨403, none⟩ "Request failed with status 403" :=
    Reply.refuses_iff.2 (by decide +kernel)
  have unmet : ¬ Reply.Accepted ⟨403, none⟩ := by
    unfold Reply.Accepted
    decide
  obtain ⟨j, operation, result, -, -, -, answers, classified⟩ :=
    replies_classified.1 guarded 2 guardedExchange ⟨403, none⟩ rfl
  have denied := (classified.denied _).2 ⟨unmet, .inr rfl, refuses⟩
  refine ⟨rfl, ?_⟩
  cases result with
  | ok answer => cases denied
  | error failure =>
    cases denied
    exact answers

end Client.Run

end Fleet

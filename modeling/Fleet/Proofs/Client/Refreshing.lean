/-
What a refresh of the blueprints gives: the list of the body that came in reply to its own request
(`refreshBlueprints_iff`), in which every blueprint stands that the body spells out, by name, and
nothing else.
-/
import Fleet.Proofs.Blueprint.Listing
import Fleet.Proofs.Cache.Coalescing
import Fleet.Proofs.Client.Replies

namespace Fleet

/-- The reply was accepted, and its body is JSON. -/
def Reply.Brings (reply : Reply) (body : Json) : Prop :=
  reply.isAccepted = true ∧ reply.json? = some body

/-- A reply to the request for a listing comes to a list if it brings a body. -/
theorem Exchange.outcome_eq_ok_iff {exchange : Exchange} {key : ResourceKey} {reply : Reply}
    {items : List key.Item} :
    exchange.outcome key (some reply) = .ok items ↔
      ∃ body, reply.Brings body ∧ items = Listing.decode key body := by
  unfold outcome Reply.Brings
  rw [result_eq_ok_iff]
  simp only [Option.map_eq_some_iff, and_assoc, exists_and_left, eq_comm]

namespace Client.Run

variable {run : Run} {key : ResourceKey} {j k call : Nat} {operation : Operation}

/-- A refresh is answered when the fetch it began ends, with the outcome of that fetch. -/
theorem finish_of_refresh {result : Except Failure Answer}
    (hj : run.event j = some (.start call operation)) (refreshes : operation.refreshes? = some key)
    (hk : run.effect k = some (.answer call result)) :
    ∃ outcome, (run.listing key).event k = some (.finish outcome) ∧
      result = outcome.map (Answer.listing key) := by
  have listed : operation.listing? = some key := Operation.listing?_of_reads (.inr refreshes)
  rcases answer_of_listing hj listed hk with ⟨rfl, -, -⟩ | ⟨-, outcome, hl, hr⟩
  · cases refreshes
  · have begun := listing_event_of_refreshes hj refreshes
    obtain ⟨landing, lands, -, rfl, rfl, -⟩ := Cache.Run.fetchesOnce_of_refresh begun hl
    have mem : landing ∈ (run.listing key).landed (landing.ended + 1) := by
      rw [lands]
      exact List.mem_cons_self
    obtain ⟨-, -, ends, -⟩ := Cache.Run.landing_spec mem
    exact ⟨_, ends, hr⟩

/-- A fetch that ends with a list ends by a reply that brings a body. -/
theorem brings_of_finish {items : List key.Item}
    (ends : (run.listing key).event k = some (.finish (.ok items))) :
    ∃ exchange reply body, run.event k = some (.receive exchange (some reply)) ∧
      exchange.purpose = .listing key ∧ reply.Brings body ∧ items = Listing.decode key body := by
  rcases finish_cases ends with ⟨exchange, reply, he, purpose, came⟩ | ⟨_, _, _, _, _, _, failed⟩
  · cases reply with
    | none => cases came
    | some reply =>
      obtain ⟨body, brings, same⟩ := Exchange.outcome_eq_ok_iff.1 came.symm
      exact ⟨exchange, reply, body, he, purpose, brings, same⟩
  · cases failed

/-- A refresh is answered with a list by the reply to its own request. -/
theorem refresh_answered_iff {answer : Answer} (hj : run.event j = some (.start call operation))
    (refreshes : operation.refreshes? = some key) :
    run.effect k = some (.answer call (.ok answer)) ↔
      ∃ exchange reply body, run.event k = some (.receive exchange (some reply)) ∧
        exchange.call = call ∧ reply.Brings body ∧
        answer = Answer.listing key (Listing.decode key body) := by
  constructor
  · intro hk
    obtain ⟨outcome, ends, same⟩ := finish_of_refresh hj refreshes hk
    cases outcome with
    | error failure => cases same
    | ok items =>
      obtain ⟨exchange, reply, body, he, purpose, brings, rfl⟩ := brings_of_finish ends
      -- the reply answers the call that sent the request, and a step answers one call
      have answered := effect_of_receive_listing purpose he
      rw [hk] at answered
      simp only [Option.some.injEq, Effect.answer.injEq] at answered
      cases same
      exact ⟨exchange, reply, body, he, answered.1.symm, brings, rfl⟩
  · rintro ⟨exchange, reply, body, he, rfl, brings, rfl⟩
    obtain ⟨i, -, other, hi, makes⟩ := exchange_origin (run.heard he)
    obtain ⟨-, rfl⟩ := start_unique hj hi
    have purpose := Operation.purpose_of_makes (Operation.listing?_of_reads (.inr refreshes)) makes
    rw [effect_of_receive_listing purpose he, Exchange.outcome_eq_ok_iff.2 ⟨body, brings, rfl⟩]
    rfl

/-- A refresh of the blueprints gives a list exactly when a body comes in reply to its request,
and it is the list that the body lists: there is one for every body, and it holds the blueprints
that the entries of the body spell out. -/
theorem refreshBlueprints_iff :
    (∀ (run : Run) (j k call : Nat) (answer : Answer),
      run.event j = some (.start call .refreshBlueprints) →
      (run.effect k = some (.answer call (.ok answer)) ↔
        ∃ exchange reply body list, run.event k = some (.receive exchange (some reply)) ∧
          exchange.call = call ∧ reply.Brings body ∧ answer = .blueprints list ∧
          Listing.ListedBy list body)) ∧
    (∀ body, ∃ list, Listing.ListedBy list body) ∧
    ∀ value blueprint, Blueprint.ofJson? value = some blueprint ↔ blueprint.SpelledBy value := by
  refine ⟨fun run j k call answer hj => ?_, fun body => ⟨_, Listing.listedBy_iff.2 rfl⟩,
    fun value blueprint => Blueprint.ofJson?_eq_some_iff⟩
  have answered : run.effect k = some (.answer call (.ok answer)) ↔
      ∃ exchange reply body, run.event k = some (.receive exchange (some reply)) ∧
        exchange.call = call ∧ reply.Brings body ∧
        answer = .blueprints (Listing.blueprints body) := refresh_answered_iff hj rfl
  rw [answered]
  constructor
  · rintro ⟨exchange, reply, body, he, hc, brings, rfl⟩
    exact ⟨exchange, reply, body, _, he, hc, brings, rfl, Listing.listedBy_iff.2 rfl⟩
  · rintro ⟨exchange, reply, body, list, he, hc, brings, rfl, listed⟩
    obtain rfl := Listing.listedBy_iff.1 listed
    exact ⟨exchange, reply, body, he, hc, brings, rfl⟩

def refreshExchange : Exchange := plainExchange 0 (.listing .blueprints) ["blueprints"]

/-- A stored blueprint, -/
def stored (id name : String) : Blueprint := { id, name, os := "rhel", version := "9.4" }

/-- as the backend writes it, -/
def storedText (id name : String) : String :=
  "\x7b\"id\":\"" ++ id ++ "\",\"name\":\"" ++ name ++
    "\",\"os\":\"rhel\",\"version\":\"9.4\"\x7d"

/-- and what is read of that. -/
def storedJson (id name : String) : Json :=
  .object [("id", .text id), ("name", .text name), ("os", .text "rhel"), ("version", .text "9.4")]

/-- Blueprints out of order, two of them with one name, and an entry that is none. -/
def mixedText : String := "\x7b\"blueprints\":[" ++ storedText "1" "b" ++ ",true," ++
  storedText "2" "a" ++ "," ++ storedText "3" "b" ++ "]\x7d"

def mixedBody : Json := .object [("blueprints", .array
  [storedJson "1" "b", .bool true, storedJson "2" "a", storedJson "3" "b"])]

/-- The blueprints are asked for anew, and this body comes. -/
def mixedRefresh : Run :=
  ofEvents plainSettings isOk_plainSettings
    [.start 0 .refreshBlueprints, .dispatch refreshExchange.toErrand,
      .receive refreshExchange (some ⟨200, some mixedText⟩)]
    (by decide) (by decide +kernel)

/-- The blueprint named "a" comes first, and the two named "b" stay in their order. -/
theorem mixed_lists : Listing.Lists (Listing.itemsUnder "blueprints" mixedBody)
    [stored "2" "a", stored "1" "b", stored "3" "b"] := by
  have spelled : Listing.spelled (Listing.itemsUnder "blueprints" mixedBody) =
      [stored "1" "b", stored "2" "a", stored "3" "b"] := by decide +kernel
  refine ⟨?_, by decide +kernel, fun name => ?_⟩
  · rw [spelled]
    exact .swap _ _ _
  · rw [spelled]
    by_cases first : "a" = name
    · subst first
      rfl
    · simp [List.filter_cons, Listing.isNamed, stored, first]

theorem mixedRefresh_answered :
    mixedRefresh.event 0 = some (.start 0 .refreshBlueprints) ∧
    mixedRefresh.effect 2 =
      some (.answer 0 (.ok (.blueprints [stored "2" "a", stored "1" "b", stored "3" "b"]))) := by
  have read : Json.read mixedText = .ok mixedBody := by decide +kernel
  have brings : Reply.Brings ⟨200, some mixedText⟩ mixedBody := by
    refine ⟨by decide, ?_⟩
    simp only [Reply.json?, Option.bind_eq_bind, Option.bind_some, read, Except.toOption]
  have listed : Listing.ListedBy [stored "2" "a", stored "1" "b", stored "3" "b"] mixedBody :=
    Listing.listedBy_iff.2 (Listing.lists_iff.1 mixed_lists)
  exact ⟨rfl, (refreshBlueprints_iff.1 mixedRefresh 0 2 0 _ rfl).2
    ⟨refreshExchange, _, _, _, rfl, rfl, brings, rfl, listed⟩⟩

end Client.Run

end Fleet

/-
Which blueprint a request is for. A checked id stands behind the path of the blueprints as it is
written, and whoever reads the URL may take it for something else: dots are resolved, a backslash
is a slash, and control characters at the end are dropped. The path names the blueprint of the id
exactly if the id is literal (`addresses_iff_literal`). Ids that are not are accepted all the
same, and then another resource is read, replaced or deleted (`deletes_above`).
-/
import Fleet.Proofs.Client.ApiBase
import Fleet.Proofs.Client.Submission

namespace Fleet

namespace ResourceId

/-- The text means itself in a path: it is not one dot or two, holds no backslash and does not end
with a control character. -/
structure Literal (text : String) : Prop where
  dot : text ≠ "."
  dots : text ≠ ".."
  backslash : '\\' ∉ text.toList
  last : ∀ c, text.toList.getLast? = some c → Url.isEdge c = false

/-- What is read of an id at the end of a URL. -/
def read (text : String) : List Char := Text.dropEndWhile Url.isEdge text.toList

theorem mem_of_mem_read {text : String} {c : Char} (h : c ∈ read text) : c ∈ text.toList :=
  (Text.dropEndWhile_prefixOf _ _).subset h

theorem written_read (text : String) :
    Url.written ("v1/blueprints".toList ++ '/' :: read text) =
      ["v1".toList, "blueprints".toList] ++ Url.written (read text) := by
  rw [Url.written, Text.splitBy_append_cons (by decide), List.map_append]
  rfl

/-- The path of the blueprints is gone through before the id. -/
theorem pushAll_path (kept : List (List Char)) (text : String) :
    Url.pushAll kept (Url.written ("v1/blueprints".toList ++ '/' :: read text)) =
      Url.pushAll ("blueprints".toList :: "v1".toList :: kept) (Url.written (read text)) := by
  rw [written_read, Url.pushAll_append _ _ (Url.written_ne_nil _)]
  rfl

theorem not_mem_path {c : Char} {text : String} (h : c ∉ text.toList)
    (other : c ∉ "v1/blueprints/".toList) : c ∉ "v1/blueprints".toList ++ '/' :: read text := by
  have parts : "v1/blueprints/".toList = "v1/blueprints".toList ++ ['/'] := by decide
  rw [parts, List.mem_append, List.mem_singleton, not_or] at other
  rw [List.mem_append, List.mem_cons, not_or, not_or]
  exact ⟨other.1, other.2, fun hc => h (mem_of_mem_read hc)⟩

section Admissible

variable {text : String} (admissible : Admissible text)
include admissible

/-- Everything but control characters at the end is read. -/
theorem cleanEnd_append : Url.cleanEnd ("v1/blueprints/" ++ text) =
    "v1/blueprints".toList ++ '/' :: read text := by
  have parts : ("v1/blueprints/" ++ text).toList = "v1/blueprints".toList ++ '/' :: text.toList := by
    rw [String.toList_append]
    rfl
  have kept : (read text).filter (!Url.isBreak ·) = read text := by
    refine List.filter_eq_self.2 fun c hc => ?_
    have solid := admissible.solid.unbroken c (mem_of_mem_read hc)
    by_contra broken
    simp only [Url.isBreak, Bool.not_eq_true', Bool.not_eq_false, Bool.or_eq_true,
      beq_iff_eq] at broken
    rcases broken with (rfl | rfl) | rfl <;> cases solid
  rw [Url.cleanEnd, parts, Url.dropEndWhile_append_cons (by decide), List.filter_append,
    List.filter_cons, if_pos (by decide)]
  exact congrArg₂ (· ++ '/' :: ·) (by decide) kept

theorem encode_of_literal (literal : Literal text) :
    Url.written (read text) = [Url.encode Url.pathSet text.toList] ∧
      Url.isDotted (Url.encode Url.pathSet text.toList) = false := by
  have whole : read text = text.toList := Text.dropEndWhile_eq_self literal.last
  have unbroken : ∀ c ∈ text.toList, Url.isSlash true c = false := by
    intro c hc
    simp only [Url.isSlash, Bool.true_and, Bool.or_eq_false_iff, beq_eq_false_iff_ne]
    constructor
    · rintro rfl
      exact admissible.slash hc
    · rintro rfl
      exact literal.backslash hc
  have decoded := Url.decodeText?_encode admissible.percent
  rw [String.ofList_toList] at decoded
  constructor
  · rw [Url.written, whole, Text.splitBy_eq_singleton unbroken]
    rfl
  · rw [Url.isDotted, Bool.or_eq_false_iff]
    constructor
    · refine Bool.eq_false_iff.2 fun dot => literal.dot ?_
      exact Option.some.inj (decoded.symm.trans (Url.decodeText?_of_isDot dot))
    · refine Bool.eq_false_iff.2 fun dots => literal.dots ?_
      exact Option.some.inj (decoded.symm.trans (Url.decodeText?_of_isDoubleDot dots))

/-- If the last segment decodes to the id, all of the id is read, and it is one segment. -/
theorem literal_of_decodes {front : List (List Char)} {last : List Char}
    (pieces : Text.splitBy (Url.isSlash true) (read text) = front ++ [last])
    (plain : Url.isDotted (Url.encode Url.pathSet last) = false)
    (decoded : Url.decodeText? (Url.encode Url.pathSet last) = some text) : Literal text := by
  have piece : last ∈ Text.splitBy (Url.isSlash true) (read text) := by
    rw [pieces]
    exact List.mem_append_right _ (List.mem_singleton_self _)
  have sub : ∀ c ∈ last, c ∈ text.toList := fun c hc =>
    mem_of_mem_read (Text.mem_of_mem_splitBy piece c hc)
  rw [Url.decodeText?_encode fun h => admissible.percent (sub _ h)] at decoded
  obtain rfl : last = text.toList := by rw [← Option.some.inj decoded, String.toList_ofList]
  have unbroken := Text.not_mem_of_mem_splitBy piece
  have whole : read text = text.toList := by
    have single := Text.splitBy_eq_singleton fun c (hc : c ∈ read text) =>
      unbroken c (mem_of_mem_read hc)
    rw [single] at piece
    exact (List.mem_singleton.1 piece).symm
  refine ⟨?_, ?_, fun h => ?_, fun c hc => ?_⟩
  · rintro rfl
    exact absurd plain (by decide)
  · rintro rfl
    exact absurd plain (by decide)
  · exact absurd (unbroken _ h) (by decide)
  · rw [← whole] at hc
    exact Text.getLast?_dropEndWhile hc

/-- The path of an id goes on with one segment that decodes to the id exactly if it is literal. -/
theorem literal_iff (kept : List (List Char)) :
    (∃ segment, Url.names (Url.pushAll kept (Url.written (read text))) =
      Url.names kept ++ [segment] ∧ Url.decodeText? segment.toList = some text) ↔
    Literal text := by
  constructor
  · rintro ⟨segment, path, decoded⟩
    obtain ⟨front, last, pieces⟩ := Text.exists_last_splitBy (Url.isSlash true) (read text)
    have ends := Url.head?_pushAll kept (front.map (Url.encode Url.pathSet))
      (Url.encode Url.pathSet last)
    rw [← List.map_singleton, ← List.map_append, ← pieces] at ends
    have tail := congrArg List.getLast? path
    rw [Url.names, List.getLast?_map, List.getLast?_reverse, Url.written, ends,
      List.getLast?_concat, Option.map_some] at tail
    rw [← Option.some.inj tail, String.toList_ofList] at decoded
    cases plain : Url.isDotted (Url.encode Url.pathSet last) with
    | true =>
      -- dots leave an empty segment, and no id is empty
      have empty : Url.decodeText? [] = some "" := Url.decodeText?_encode List.not_mem_nil
      rw [plain, if_pos rfl, empty] at decoded
      exact absurd (Option.some.inj decoded).symm admissible.solid.tidy.ne_empty
    | false =>
      rw [plain, if_neg (by simp)] at decoded
      exact literal_of_decodes admissible pieces plain decoded
  · intro literal
    obtain ⟨written, plain⟩ := encode_of_literal admissible literal
    refine ⟨String.ofList (Url.encode Url.pathSet text.toList), ?_, ?_⟩
    · have dotless := Bool.or_eq_false_iff.1 plain
      rw [written, Url.pushAll, Url.pushLast, dotless.1, dotless.2]
      simp [Url.names]
    · rw [String.toList_ofList, Url.decodeText?_encode admissible.percent, String.ofList_toList]

end Admissible

end ResourceId

namespace Client.Run

variable {run : Run}

/-! ## Requests for one blueprint -/

/-- The request goes to the server of the base, and to the blueprint with the id as far as the id
is literal. -/
structure AddressesOne (root : Url) (exchange : Exchange) (text : String) : Prop where
  /-- It goes to the same server, without query and fragment. -/
  server : exchange.request.url = { root with path := exchange.request.url.path }
  /-- Its path is the path of the base, the path of the blueprints and one segment that decodes to
  the trimmed id exactly if the id is literal. -/
  path : ∃ directory, root.path = .segments (directory ++ [""]) ∧
    ((∃ segment,
        exchange.request.url.path = .segments (directory ++ ["v1", "blueprints", segment]) ∧
        Url.decodeText? segment.toList = some (Text.trim text)) ↔
      ResourceId.Literal (Text.trim text))

/-- Every request for one blueprint addresses the blueprint with the trimmed id, and no other, if
and only if the id is literal. -/
theorem addresses_iff_literal {j n : Nat} {operation : Operation} {exchange : Exchange}
    {text : String} {root : Url}
    (hroot : Url.parse (run.initial.base.text ++ "/") = .ok root)
    (query : root.query = none) (fragment : root.fragment = none)
    (he : run.event j = some (.start exchange.call operation))
    (hid : operation.id? = some text) (h : run.effect n = some (.send exchange)) :
    AddressesOne root exchange text := by
  obtain ⟨url, admissible⟩ := addresses_of_send he hid h
  obtain ⟨special, server⟩ := ApiBase.special_of_mem_schemes (ApiBase.scheme_of_root hroot)
  obtain ⟨kept, path, below⟩ := Url.parse_below hroot special server query fragment
  have whole : run.initial.base.text ++ "/v1/blueprints/" ++ Text.trim text =
      run.initial.base.text ++ "/" ++ ("v1/blueprints/" ++ Text.trim text) := by
    rw [String.append_assoc, String.append_assoc]
    rfl
  have hash : '#' ∉ Url.cleanEnd ("v1/blueprints/" ++ Text.trim text) := by
    rw [ResourceId.cleanEnd_append admissible]
    exact ResourceId.not_mem_path admissible.hash (by decide)
  have question : '?' ∉ Url.cleanEnd ("v1/blueprints/" ++ Text.trim text) := by
    rw [ResourceId.cleanEnd_append admissible]
    exact ResourceId.not_mem_path admissible.question (by decide)
  rw [whole, below _ hash question, ResourceId.cleanEnd_append admissible,
    ResourceId.pushAll_path] at url
  have sent := Except.ok.inj url
  have names : Url.names ("blueprints".toList :: "v1".toList :: kept) =
      Url.names kept ++ ["v1", "blueprints"] := by simp [Url.names]
  refine ⟨by rw [← sent], Url.names kept, path, ?_⟩
  rw [← ResourceId.literal_iff admissible ("blueprints".toList :: "v1".toList :: kept), names]
  simp only [← sent, Url.Path.segments.injEq, List.append_assoc, List.cons_append, List.nil_append]

/-! ## Ids with and without a meaning of their own -/

/-- The base of a plain client, as a directory. -/
def bareRoot : Url where
  scheme := "http"
  host := some (.domain "h")
  path := .segments ["api", ""]

def webExchange : Exchange :=
  plainExchange 0 (.blueprint ⟨"web-ü", by decide, by decide⟩) ["blueprints", "web-%C3%BC"]

/-- A blueprint is asked for. -/
def fetchesWeb : Run := ofEvents plainSettings isOk_plainSettings
  [.start 0 (.blueprint " web-ü "), .dispatch webExchange.toErrand] (by decide) (by decide +kernel)

theorem fetchesWeb_addresses :
    Url.parse (fetchesWeb.initial.base.text ++ "/") = .ok bareRoot ∧
    bareRoot.query = none ∧ bareRoot.fragment = none ∧
    fetchesWeb.event 0 = some (.start 0 (.blueprint " web-ü ")) ∧
    Operation.id? (.blueprint " web-ü ") = some " web-ü " ∧
    fetchesWeb.effect 1 = some (.send webExchange) ∧
    AddressesOne bareRoot webExchange " web-ü " := by
  have root : Url.parse (fetchesWeb.initial.base.text ++ "/") = .ok bareRoot := by decide +kernel
  have sent : fetchesWeb.effect 1 = some (.send webExchange) :=
    send_of_dispatch rfl (by decide +kernel) (by decide +kernel)
  have begun : fetchesWeb.event 0 = some (.start webExchange.call (.blueprint " web-ü ")) := rfl
  exact ⟨root, rfl, rfl, begun, rfl, sent, addresses_iff_literal root rfl rfl begun rfl sent⟩

def dotsExchange : Exchange :=
  plainExchange 0 (.change (.delete ⟨"..", by decide, by decide⟩)) [""]

/-- The deletion of a blueprint whose id is two dots is asked for. -/
def deletesDots : Run := ofEvents plainSettings isOk_plainSettings
  [.start 0 (.change (.delete "..")), .dispatch dotsExchange.toErrand] (by decide)
  (by decide +kernel)

/-- Not every request for one blueprint addresses it: this one deletes what is above. -/
theorem deletes_above : ¬ ∀ (run : Run) (j n : Nat) (operation : Operation) (exchange : Exchange)
    (text : String) (root : Url) (directory : List String),
    Url.parse (run.initial.base.text ++ "/") = .ok root → root.query = none →
    root.fragment = none → root.path = .segments (directory ++ [""]) →
    run.event j = some (.start exchange.call operation) → operation.id? = some text →
    run.effect n = some (.send exchange) →
    ∃ segment, exchange.request.url.path = .segments (directory ++ ["v1", "blueprints", segment]) ∧
      Url.decodeText? segment.toList = some (Text.trim text) := by
  intro h
  have root : Url.parse (deletesDots.initial.base.text ++ "/") = .ok bareRoot := by decide +kernel
  have sent : deletesDots.effect 1 = some (.send dotsExchange) :=
    send_of_dispatch rfl (by decide +kernel) (by decide +kernel)
  obtain ⟨segment, path, -⟩ := h deletesDots 0 1 _ dotsExchange ".." bareRoot ["api"] root rfl rfl
    rfl rfl rfl sent
  simp [dotsExchange, plainExchange] at path

end Client.Run

end Fleet

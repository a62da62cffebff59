/-
Drafts from a payload editor. A payload stands for an object if it is blank, if it is JSON text for
an object, or if it is JSON text for null; with every other payload nothing is sent
(`follows_editor`). So an object is not the only JSON value that is accepted
(`null_payload_accepted`).
-/
import Fleet.Proofs.Client.Submission
import Fleet.Proofs.Number.Text

namespace Fleet

/-! ## White space is not JSON text -/

namespace Json

/-- White space begins no value. -/
theorem readValue_of_blank (shape : Shape) (depth : Nat) {cs : List Char}
    (h : ∀ c ∈ cs, Text.isBlank c = true) : ∃ stop, readValue shape depth cs = .error stop := by
  rw [readValue]
  split
  · exact ⟨_, rfl⟩
  · rename_i c rest hs
    have suffix : c :: rest <:+ cs := by
      rw [← hs]
      exact List.dropWhile_suffix isSpace
    have blank := h c (suffix.subset List.mem_cons_self)
    have undigit : c.isDigit = false := by
      rw [Bool.eq_false_iff]
      intro digit
      rw [isBlank_of_isNumeralChar (by simp [isNumeralChar, digit])] at blank
      cases blank
    have apart : ∀ d, Text.isBlank d = false → (c == d) = false := by
      intro d hd
      rw [beq_eq_false_iff_ne]
      rintro rfl
      rw [hd] at blank
      cases blank
    -- some characters are white space and no blanks of JSON
    simp only [apart 'n' rfl, apart 't' rfl, apart 'f' rfl, apart '"' rfl, apart '-' rfl, undigit,
      apart '[' rfl, apart '\x7b' rfl, Bool.false_eq_true, if_false]
    exact ⟨_, rfl⟩

theorem read_ne_ok_of_blank {text : String} (h : ∀ c ∈ text.toList, Text.isBlank c = true)
    (value : Json) : read text ≠ .ok value := by
  obtain ⟨stop, stopped⟩ := readValue_of_blank .any depthLimit h
  intro hr
  rw [read, readAs] at hr
  simp only [stopped] at hr
  cases hr

end Json

namespace Draft

/-! ## Payloads -/

/-- The object that the text of a payload editor stands for. -/
inductive EditorObject (payload : String) : Json → Prop where
  | blank (blank : ∀ c ∈ payload.toList, Text.isBlank c = true) : EditorObject payload (.object [])
  | object {members : List (String × Json)} (read : Json.read payload = .ok (.object members)) :
    EditorObject payload (.object members)
  /-- Null stands for an object without members, as it does in every draft. -/
  | null (read : Json.read payload = .ok .null) : EditorObject payload (.object [])

theorem readPayload_of_blank {payload : String}
    (blank : ∀ c ∈ payload.toList, Text.isBlank c = true) :
    readPayload payload = .ok (.object []) := by
  have none_left : Text.trim payload = "" := by
    rw [Text.trim, Text.trimBy_eq_nil_iff.2 blank]
  rw [readPayload, none_left]
  rfl

theorem readPayload_of_not_blank {payload : String}
    (filled : ¬ ∀ c ∈ payload.toList, Text.isBlank c = true) :
    readPayload payload = (Json.read payload).mapError .notJson := by
  have some_left : (Text.trim payload).isEmpty = false := by
    rw [← Text.trimBy_eq_nil_iff] at filled
    simpa [Text.trim] using filled
  rw [readPayload, some_left]
  rfl

/-- A payload stands for the object that is made of what it is read as. -/
theorem editorObject_iff {payload : String} {data : Json} :
    EditorObject payload data ↔
      ∃ value, readPayload payload = .ok value ∧ objectData value = .ok data := by
  by_cases blank : ∀ c ∈ payload.toList, Text.isBlank c = true
  · rw [readPayload_of_blank blank]
    constructor
    · intro h
      cases h with
      | blank => exact ⟨_, rfl, rfl⟩
      | object read | null read => exact absurd read (Json.read_ne_ok_of_blank blank _)
    · rintro ⟨value, read, made⟩
      cases read
      cases made
      exact .blank blank
  · rw [readPayload_of_not_blank blank]
    constructor
    · intro h
      cases h with
      | blank blank' => exact absurd blank' blank
      | object read | null read => exact ⟨_, by rw [read]; rfl, rfl⟩
    · rintro ⟨value, read, made⟩
      have read := ok_of_mapError read
      cases value with
      | null =>
        cases made
        exact .null read
      | object members =>
        cases made
        exact .object read
      | bool | number | text | array => cases made

/-- A payload stands for one object at most. -/
theorem EditorObject.unique {payload : String} {data other : Json} (h : EditorObject payload data)
    (h' : EditorObject payload other) : data = other := by
  obtain ⟨value, read, made⟩ := editorObject_iff.1 h
  obtain ⟨value', read', made'⟩ := editorObject_iff.1 h'
  obtain rfl := Except.ok.inj (read.symm.trans read')
  exact Except.ok.inj (made.symm.trans made')

/-! ## Copies -/

/-- The checked copy of the draft that stands in an editor. -/
def editorCopy (name os version payload : String) : Except Fault Draft :=
  ofEditor name os version payload >>= validate

/-- The copy has the texts of the editor, trimmed, and the object its payload stands for. -/
structure CopiesEditor (name os version payload : String) (copy : Draft) : Prop where
  name : copy.name = Text.trim name
  os : copy.os = Text.trim os
  version : copy.version = Text.trim version
  data : EditorObject payload copy.data

variable {name os version payload : String} {draft copy : Draft}

theorem ofEditor_eq_ok_iff : ofEditor name os version payload = .ok draft ↔
    ∃ data, readPayload payload = .ok data ∧ draft = ⟨name, os, version, data⟩ := by
  unfold ofEditor
  cases readPayload payload with
  | ok data => simp [Except.map, eq_comm]
  | error fault => simp [Except.map]

theorem editorCopy_eq_ok_iff : editorCopy name os version payload = .ok copy ↔
    CopiesEditor name os version payload copy ∧
      Text.Tidy copy.name ∧ Text.Tidy copy.os ∧ Text.Tidy copy.version := by
  rw [editorCopy, bind_eq_ok_iff]
  constructor
  · rintro ⟨draft, given, copied⟩
    obtain ⟨value, read, rfl⟩ := ofEditor_eq_ok_iff.1 given
    obtain ⟨trims, submittable⟩ := validate_eq_ok_iff.1 copied
    have made := objectData_eq_ok_iff.2 ⟨trims.data, submittable.data⟩
    exact ⟨⟨trims.name, trims.os, trims.version, editorObject_iff.2 ⟨value, read, made⟩⟩,
      submittable.name, submittable.os, submittable.version⟩
  · rintro ⟨copies, tidy_name, tidy_os, tidy_version⟩
    obtain ⟨value, read, made⟩ := editorObject_iff.1 copies.data
    obtain ⟨same, object⟩ := objectData_eq_ok_iff.1 made
    exact ⟨_, ofEditor_eq_ok_iff.2 ⟨value, read, rfl⟩, validate_eq_ok_iff.2
      ⟨⟨copies.name, copies.os, copies.version, same⟩, tidy_name, tidy_os, tidy_version, object⟩⟩

theorem exists_editorCopy_iff : (∃ copy, editorCopy name os version payload = .ok copy) ↔
    (∀ text ∈ [name, os, version], ∃ c ∈ text.toList, Text.isBlank c = false) ∧
      ∃ data, EditorObject payload data := by
  simp only [editorCopy_eq_ok_iff, List.forall_mem_cons, List.not_mem_nil, false_implies,
    implies_true, and_true, ← Text.tidy_trim_iff]
  constructor
  · rintro ⟨copy, copies, tidy_name, tidy_os, tidy_version⟩
    exact ⟨⟨copies.name ▸ tidy_name, copies.os ▸ tidy_os, copies.version ▸ tidy_version⟩,
      _, copies.data⟩
  · rintro ⟨⟨tidy_name, tidy_os, tidy_version⟩, data, object⟩
    exact ⟨⟨_, _, _, data⟩, ⟨rfl, rfl, rfl, object⟩, tidy_name, tidy_os, tidy_version⟩

/-- The copy of a draft from an editor is the one of what stands in it. -/
theorem copiesEditor_of_validate (given : ofEditor name os version payload = .ok draft)
    (copied : draft.validate = .ok copy) : CopiesEditor name os version payload copy :=
  (editorCopy_eq_ok_iff.1 (bind_eq_ok_iff.2 ⟨draft, given, copied⟩)).1

end Draft

open Draft

/-! ## What is sent -/

namespace Client.Run

variable {run : Run} {name os version payload : String} {request : ChangeRequest} {draft : Draft}
  (given : ofEditor name os version payload = .ok draft) (asked : request.draft? = some draft)
include given asked

theorem body_of_checks {change : Change} (checks : request.Checks change) :
    ∃ sent, change.body = some sent ∧ CopiesEditor name os version payload sent := by
  cases checks with
  | create copied | update _ copied =>
    cases asked
    exact ⟨_, rfl, copiesEditor_of_validate given copied⟩
  | delete => cases asked

/-- The request for a change carries the copy of what stands in the editor. -/
theorem body_of_send {j n : Nat} {exchange : Exchange}
    (hj : run.event j = some (.start exchange.call (.change request)))
    (h : run.effect n = some (.send exchange)) :
    ∃ sent, exchange.request.body = some sent ∧ CopiesEditor name os version payload sent := by
  obtain ⟨i, -, operation, hi, makes⟩ := makes_of_send h
  obtain ⟨-, rfl⟩ := start_unique hj hi
  obtain ⟨url, -, made⟩ := request_of_send h
  rcases makes.checked_cases rfl with ⟨_, _, other, -⟩ | ⟨_, change, same, checked, purpose⟩
  · cases other
  · cases same
    obtain ⟨sent, body, copies⟩ :=
      body_of_checks given asked (ChangeRequest.checks_of_check checked)
    exact ⟨sent, by rw [made, purpose]; exact body, copies⟩

/-- Without an object to send, the call is refused in the step it begins in. -/
theorem refusedAtOnce_of_editor (unread : ∀ data, ¬ EditorObject payload data) {j call : Nat}
    (hj : run.event j = some (.start call (.change request))) :
    ∃ reason, run.effect j = some (.answer call (.error (.invalid reason))) ∧
      run.RefusedAtOnce j j call := by
  cases checked : request.check with
  | ok change =>
    obtain ⟨sent, -, copies⟩ := body_of_checks given asked (ChangeRequest.checks_of_check checked)
    exact absurd copies.data (unread sent.data)
  | error reason =>
    have answered : run.effect j = some (.answer call (.error (.invalid reason))) := by
      simp only [Schedule.effect, hj, Option.bind_some, Client.step, Client.start, checked]
    obtain ⟨-, refused, same⟩ := refused_of_invalid hj rfl answered
    exact ⟨reason, answered, rfl, unsent_of_refused hj refused, unclaimed_of_refused hj refused,
      fun key => by rw [same], same⟩

end Client.Run

namespace Draft

/-! ## From the editor to the backend -/

/-- What comes of the texts in an editor. -/
structure FollowsEditor (name os version payload : String) : Prop where
  /-- There is a copy exactly if no text is blank and the payload stands for an object. -/
  accepted : (∃ copy, editorCopy name os version payload = .ok copy) ↔
    (∀ text ∈ [name, os, version], ∃ c ∈ text.toList, Text.isBlank c = false) ∧
      ∃ data, EditorObject payload data
  copied : ∀ {copy : Draft}, editorCopy name os version payload = .ok copy →
    CopiesEditor name os version payload copy
  unique : ∀ {data other : Json}, EditorObject payload data → EditorObject payload other →
    data = other
  /-- What is sent for the draft is its copy. -/
  sent : ∀ {run : Client.Run} {j n : Nat} {request : ChangeRequest} {draft : Draft}
      {exchange : Exchange}, ofEditor name os version payload = .ok draft →
    request.draft? = some draft → run.event j = some (.start exchange.call (.change request)) →
    run.effect n = some (.send exchange) →
    ∃ sent, exchange.request.body = some sent ∧ CopiesEditor name os version payload sent
  /-- For any other payload there is no draft, or what is asked for with it is refused at once. -/
  refused : (∀ data, ¬ EditorObject payload data) → ∀ {run : Client.Run} {j call : Nat}
      {request : ChangeRequest} {draft : Draft}, ofEditor name os version payload = .ok draft →
    request.draft? = some draft → run.event j = some (.start call (.change request)) →
    ∃ reason, run.effect j = some (.answer call (.error (.invalid reason))) ∧
      run.RefusedAtOnce j j call

/-- Whatever stands in an editor, a blank payload is sent as an empty object, and so is null; the
text of an object is sent as that object, and nothing is sent for any other payload. -/
theorem follows_editor (name os version payload : String) :
    FollowsEditor name os version payload where
  accepted := exists_editorCopy_iff
  copied h := (editorCopy_eq_ok_iff.1 h).1
  unique := EditorObject.unique
  sent given asked begun h := Client.Run.body_of_send given asked begun h
  refused unread _ _ _ _ _ given asked begun :=
    Client.Run.refusedAtOnce_of_editor given asked unread begun

/-- The draft of an editor with blanks around its texts. -/
def editorDraft : Draft := ⟨" base ", "rhel", "9.4", .object [("disk", .text "sda")]⟩

def editorPayload : String := " \x7b\"disk\":\"sda\"\x7d "

def editorExchange : Exchange :=
  Client.Run.plainExchange 0 (.change (.create { editorDraft with name := "base" })) ["blueprints"]

/-- The draft of an editor with the payload `[true]`. -/
def listDraft : Draft := ⟨"base", "rhel", "9.4", .array [.bool true]⟩

/-- Blueprints are created from what stands in the two editors. -/
def creates : Client.Run := .ofEvents Client.Run.plainSettings Client.Run.isOk_plainSettings
  [.start 0 (.change (.create editorDraft)), .dispatch editorExchange.toErrand,
    .start 1 (.change (.create listDraft))]
  (by decide) (by decide +kernel)

theorem creates_followsEditor :
    (∃ copy, editorCopy " base " "rhel" "9.4" editorPayload = .ok copy) ∧
    creates.effect 1 = some (.send editorExchange) ∧
    (∃ sent, editorExchange.request.body = some sent ∧
      CopiesEditor " base " "rhel" "9.4" editorPayload sent) ∧
    ∃ reason, creates.effect 2 = some (.answer 1 (.error (.invalid reason))) ∧
      creates.RefusedAtOnce 2 2 1 := by
  have follows := follows_editor " base " "rhel" "9.4" editorPayload
  have read : Json.read editorPayload = .ok (.object [("disk", .text "sda")]) := by
    decide +kernel
  have made : ofEditor " base " "rhel" "9.4" editorPayload = .ok editorDraft := by
    decide +kernel
  have filled : ∀ text ∈ [" base ", "rhel", "9.4"], ∃ c ∈ text.toList, Text.isBlank c = false := by
    simp [Text.isBlank]
  have sends : creates.effect 1 = some (.send editorExchange) :=
    Client.Run.send_of_dispatch rfl (by decide +kernel) (by decide +kernel)
  have begun : creates.event 0 =
      some (.start editorExchange.call (.change (.create editorDraft))) := rfl
  have list_read : readPayload "[true]" = .ok (.array [.bool true]) := by decide +kernel
  have unread : ∀ data, ¬ EditorObject "[true]" data := by
    intro data h
    obtain ⟨value, read, object⟩ := editorObject_iff.1 h
    rw [list_read] at read
    cases read
    cases object
  have list_made : ofEditor "base" "rhel" "9.4" "[true]" = .ok listDraft := by
    rw [ofEditor, list_read]
    rfl
  have list_begun : creates.event 2 = some (.start 1 (.change (.create listDraft))) := rfl
  exact ⟨follows.accepted.2 ⟨filled, _, .object read⟩, sends,
    follows.sent made rfl begun sends,
    (follows_editor "base" "rhel" "9.4" "[true]").refused unread list_made rfl list_begun⟩

/-- The text of null is accepted, and it is neither blank nor the text of an object. -/
theorem null_payload_accepted : ¬ ∀ name os version payload : String,
    (∃ copy, editorCopy name os version payload = .ok copy) ↔
      (∀ text ∈ [name, os, version], ∃ c ∈ text.toList, Text.isBlank c = false) ∧
        ((∀ c ∈ payload.toList, Text.isBlank c = true) ∨
          ∃ members, Json.read payload = .ok (.object members)) := by
  intro agrees
  have read : Json.read "null" = .ok .null := by decide +kernel
  have filled : ∀ text ∈ ["base", "rhel", "1"], ∃ c ∈ text.toList, Text.isBlank c = false := by
    simp [Text.isBlank]
  obtain ⟨-, blank | ⟨members, object⟩⟩ :=
    (agrees "base" "rhel" "1" "null").1 (exists_editorCopy_iff.2 ⟨filled, _, .null read⟩)
  · exact Json.read_ne_ok_of_blank blank _ read
  · rw [read] at object
    cases object

end Draft

end Fleet

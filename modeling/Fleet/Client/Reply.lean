/-
What comes back for a request, and what it means. A reply with a status from 200 to 299 is
accepted; any other one becomes a failure with the text the backend reports in its body, or with
a text that names the status.
-/
import Fleet.Blueprint.Record
import Fleet.Failure
import Fleet.Json.Reader
import Fleet.Text.Blank

namespace Fleet

/-- The backend's answer to a request. -/
structure Reply where
  status : UInt16
  /-- Absent when the connection ended before the body did. -/
  body : Option String
deriving DecidableEq, Repr

namespace Reply

/-! ## Refusals -/

/-- The form of a body that reports an error. -/
def errorShape : Json.Shape := .record [("error", .any)]

/-- The text a body reports, if it has the right form and the text is not blank. -/
def reportedError? (body : String) : Option String := do
  let value ← (Json.readAs errorShape body).toOption
  let fields ← value.fields? ["error"]
  let text ← ← Json.optional? fields "error" Json.text?
  Text.nonBlank? text

/-- The text of a refusal. -/
def refusalText (status : UInt16) (body : String) : String :=
  (reportedError? body).getD s!"Request failed with status {status}"

/-- Whether the request was accepted. -/
def isAccepted (reply : Reply) : Bool := 200 ≤ reply.status && reply.status ≤ 299

/-- The body as a text: a byte order mark is no part of it, and a body that was cut off counts as
empty. -/
def text (reply : Reply) : String :=
  String.ofList (Text.dropByteOrderMark (reply.body.getD "").toList)

/-- The failure a refusal stands for. -/
def refusal (reply : Reply) : Failure :=
  let text := refusalText reply.status reply.text
  if reply.status == 401 || reply.status == 403 then .authentication text
  else .api reply.status text

/-! ## Bodies -/

/-- The body as a JSON value. -/
def json? (reply : Reply) : Option Json := do
  let body ← reply.body
  (Json.read body).toOption

/-- The form of a stored blueprint in a body. -/
def blueprintShape : Json.Shape := .record [("blueprint", .record [
  ("id", .any), ("name", .any), ("os", .any), ("version", .any), ("data", .any),
  ("created_at", .any), ("updated_at", .any)])]

/-- The blueprint in the body. -/
def blueprint? (reply : Reply) : Option Blueprint := do
  let body ← reply.body
  let value ← (Json.readAs blueprintShape body).toOption
  let fields ← value.fields? ["blueprint"]
  Json.required? fields "blueprint" Blueprint.ofJson?

end Reply

end Fleet

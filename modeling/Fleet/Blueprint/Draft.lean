/-
Blueprints before they are submitted. A draft may come from the text of a payload editor, where
blank text stands for an empty object. Checking a draft gives the copy that is submitted: its
texts trimmed and not blank, and its payload an object.
-/
import Fleet.Failure
import Fleet.Json.Fields
import Fleet.Json.Reader
import Fleet.Text.Blank

namespace Fleet

/-- A blueprint that is not stored yet. -/
structure Draft where
  name : String
  os : String
  version : String
  data : Json
deriving DecidableEq, Inhabited

namespace Draft

/-! ## Faults -/

/-- What is wrong with a draft. -/
inductive Fault where
  /-- The text of the payload editor is not JSON. -/
  | notJson (fault : Json.Fault)
  /-- A text is blank. -/
  | blank (field : String)
  /-- The payload is not an object. -/
  | notObject
deriving DecidableEq, Repr

/-- The refusal for a fault. -/
def Fault.toInvalid : Fault → Invalid
  | notJson fault => .format s!"Blueprint payload is not valid JSON: {fault.message}"
  | blank field => .field field s!"{field} is required"
  | notObject => .constraint "Blueprint payload must be a JSON object"

/-! ## Making and checking drafts -/

/-- The payload an editor's text stands for. -/
def readPayload (payload : String) : Except Fault Json :=
  if (Text.trim payload).isEmpty then .ok (.object [])
  else (Json.read payload).mapError .notJson

/-- The draft with a payload from an editor. -/
def ofEditor (name os version payload : String) : Except Fault Draft :=
  (readPayload payload).map fun data => ⟨name, os, version, data⟩

/-- A text of the draft, trimmed. -/
def required (field value : String) : Except Fault String :=
  match Text.nonBlank? value with
  | some trimmed => .ok trimmed
  | none => .error (.blank field)

/-- The payload as an object. -/
def objectData : Json → Except Fault Json
  | .null => .ok (.object [])
  | .object members => .ok (.object members)
  | _ => .error .notObject

/-- The copy that is submitted. -/
def validate (draft : Draft) : Except Fault Draft := do
  let name ← required "name" draft.name
  let os ← required "os" draft.os
  let version ← required "version" draft.version
  let data ← objectData draft.data
  return ⟨name, os, version, data⟩

/-! ## JSON form -/

open Json (ofFields ofText)

/-- Writes a draft. -/
def toJson (draft : Draft) : Json :=
  ofFields [
    ("name", ofText draft.name),
    ("os", ofText draft.os),
    ("version", ofText draft.version),
    ("data", some draft.data)]

end Draft

end Fleet

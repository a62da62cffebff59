/-
Ids that may stand in the path of a request: a trimmed text without white space and without the
characters that mean something in a path.
-/
import Fleet.Failure
import Fleet.Text.Blank

namespace Fleet

namespace ResourceId

/-- What is wrong with an id. -/
inductive Fault where
  | empty
  /-- The trimmed text holds a character that may not stand in an id. -/
  | forbidden (text : String)
deriving DecidableEq, Repr

/-- The refusal for a fault. -/
def Fault.toInvalid : Fault → Invalid
  | empty => .field "id" "Id cannot be empty"
  | forbidden text => .format s!"Id contains characters not allowed in a path: {text}"

/-- The characters that may not stand in an id. -/
def isForbidden (c : Char) : Bool :=
  c == '/' || c == '?' || c == '#' || c == '%' || Text.isBlank c

end ResourceId

/-- The id of a stored resource: a text that is not empty and holds only characters that may stand
in an id, so it has no white space either. -/
structure ResourceId where
  text : String
  filled : text ≠ ""
  allowed : text.toList.any ResourceId.isForbidden = false
deriving DecidableEq

namespace ResourceId

/-- The id a text gives: the text trimmed. -/
def ofText (text : String) : Except Fault ResourceId :=
  if empty : Text.trim text = "" then .error .empty
  else if forbidden : (Text.trim text).toList.any isForbidden then
    .error (.forbidden (Text.trim text))
  else .ok ⟨Text.trim text, empty, Bool.eq_false_iff.2 forbidden⟩

/-- What is kept of an accepted text. -/
theorem text_of_ofText {text : String} {id : ResourceId} (h : ofText text = .ok id) :
    id.text = Text.trim text := by
  unfold ofText at h
  split at h
  · cases h
  · split at h
    · cases h
    · rw [← Except.ok.inj h]

end ResourceId

end Fleet

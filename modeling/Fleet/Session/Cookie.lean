/-
The credential sent with every request: one or more pairs of a name and a value, separated by
semicolons. A name is not empty and has no white space and no comma; nothing in the text is a
control character.
-/
import Fleet.Failure
import Fleet.Text.Blank
import Fleet.Text.Split

namespace Fleet

namespace SessionCookie

/-! ## Faults -/

/-- What is wrong with a credential. -/
inductive Fault where
  | empty
  /-- A pair has no equals sign. -/
  | notPair
  /-- A name may not be used. -/
  | badName (name : String)
  | controlCharacter
deriving DecidableEq, Repr

/-- The refusal for a fault. -/
def Fault.toInvalid : Fault → Invalid
  | empty => .field "session_cookie" "Session cookie cannot be empty"
  | notPair => .format "Session cookie must be in format NAME=VALUE"
  | badName name => .format s!"Invalid cookie name: '{name}'"
  | controlCharacter => .format "Session cookie cannot contain control characters"

/-! ## Checking -/

/-- The pairs of a text: its parts between semicolons, trimmed, blank ones left out. -/
def pairs (cs : List Char) : List (List Char) :=
  ((Text.splitBy (· == ';') cs).map (Text.trimBy Text.isBlank)).filter (!·.isEmpty)

/-- Whether a name may be used. -/
def isName (name : List Char) : Bool :=
  !name.isEmpty && !name.any fun c => Text.isBlank c || c == ','

/-- Checks one pair: the name ends at the first equals sign. -/
def checkPair (pair : List Char) : Except Fault Unit :=
  let name := pair.takeWhile (· != '=')
  if !pair.contains '=' then .error .notPair
  else if isName name then .ok ()
  else .error (.badName (String.ofList name))

/-- Checks a text as it stands: its pairs in order, then its characters. -/
def check (text : String) : Except Fault Unit := do
  if text.isEmpty then throw .empty
  (pairs text.toList).forM checkPair
  if text.toList.any Text.isControl then throw .controlCharacter

end SessionCookie

/-! ## Credentials -/

/-- A credential: a text that has passed the check, without white space at its ends. -/
@[ext]
structure SessionCookie where
  text : String
  trimmed : Text.trim text = text
  checked : SessionCookie.check text = .ok ()
deriving DecidableEq

namespace SessionCookie

/-- The credential a text gives: the text trimmed. -/
def ofText (text : String) : Except Fault SessionCookie :=
  match checked : check (Text.trim text) with
  | .error fault => .error fault
  | .ok () => .ok ⟨Text.trim text, Text.trim_trim text, checked⟩

/-- How a credential is shown: never its text. -/
def redacted (_ : SessionCookie) : String := "SessionCookie(\"<redacted>\")"

/-- What is kept of an accepted text. -/
theorem text_of_ofText {text : String} {cookie : SessionCookie} (h : ofText text = .ok cookie) :
    cookie.text = Text.trim text := by
  unfold ofText at h
  split at h
  · cases h
  · rw [← Except.ok.inj h]

theorem exists_ofText_iff {text : String} :
    (∃ cookie, ofText text = .ok cookie) ↔ check (Text.trim text) = .ok () := by
  constructor
  · rintro ⟨cookie, h⟩
    rw [← text_of_ofText h]
    exact cookie.checked
  · intro h
    unfold ofText
    split
    · rename_i failed
      rw [h] at failed
      cases failed
    · exact ⟨_, rfl⟩

end SessionCookie

end Fleet

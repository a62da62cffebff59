/-
The URL that every request path is appended to. It is given as a URL of its own, or as a path
below the origin of the console; either way the text that is kept is the text that was given,
without blanks at its ends and without slashes at its end.
-/
import Fleet.Failure
import Fleet.Url.Basic

namespace Fleet

namespace ApiBase

/-! ## Faults -/

/-- What is wrong with a base. -/
inductive Fault where
  /-- A path was given and no origin. -/
  | originRequired
  | empty
  | tooLong
  | notUrl (fault : Url.Fault)
  | scheme
  | noHost
deriving DecidableEq, Repr

/-- The schemes requests can be made with. -/
def schemes : List String := ["https", "http"]

/-- The longest URL in bytes. -/
def maxLength : Nat := 2083

/-- The schemes as a list for a reader. -/
def schemeList : String := ", ".intercalate schemes

/-- The refusal for a fault. -/
def Fault.toInvalid : Fault → Invalid
  | originRequired => .field "origin" "An origin is required when the API base is a path"
  | empty => .field "url" "URL cannot be empty"
  | tooLong => .format s!"URL exceeds maximum length of {maxLength} characters"
  | notUrl fault => .format s!"Invalid URL format: {fault.message}"
  | scheme => .constraint s!"Invalid scheme. Must be one of: {schemeList}"
  | noHost => .format "URL must include a host"

/-! ## Checking a URL -/

/-- Whether the URL has a host that is not empty. -/
def hasHost (url : Url) : Bool := url.host.any (· != .empty)

/-- Checks that a text is a URL requests can be made with. -/
def checkUrl (text : String) : Except Fault Unit := do
  if text.isEmpty then throw .empty
  if text.utf8ByteSize > maxLength then throw .tooLong
  let url ← (Url.parse text).mapError .notUrl
  if !schemes.contains url.scheme then throw .scheme
  if !hasHost url then throw .noHost

/-! ## Slashes -/

/-- Whether the character is a slash. -/
def isSlash (c : Char) : Bool := c == '/'

/-- The text without slashes at its end. -/
def dropEndSlashes (text : String) : String :=
  String.ofList (Text.dropEndWhile isSlash text.toList)

/-- The origin with a path below it, without slashes at the ends of the path. -/
def join (origin path : String) : String :=
  let inner := String.ofList (Text.trimBy isSlash path.toList)
  if inner.isEmpty then dropEndSlashes origin else s!"{dropEndSlashes origin}/{inner}"

/-- The text of the base that a path below a text is, without the slashes around the path. -/
def below (root path : String) : String :=
  root ++ "/" ++ String.ofList (Text.trimBy isSlash path.toList)

theorem getLast?_dropEndSlashes (text : String) :
    (dropEndSlashes text).toList.getLast? ≠ some '/' := by
  intro h
  rw [dropEndSlashes, String.toList_ofList] at h
  cases Text.getLast?_dropEndWhile h

theorem dropEndSlashes_eq_self {text : String} (h : text.toList.getLast? ≠ some '/') :
    dropEndSlashes text = text := by
  rw [dropEndSlashes, Text.dropEndWhile_eq_self, String.ofList_toList]
  intro c hc
  rw [isSlash, beq_eq_false_iff_ne]
  rintro rfl
  exact h hc

theorem join_of_slashes {path : String} (origin : String)
    (none_left : Text.trimBy isSlash path.toList = []) :
    join origin path = dropEndSlashes origin := by
  rw [join, none_left]
  rfl

theorem join_of_path {path : String} (origin : String)
    (some_left : Text.trimBy isSlash path.toList ≠ []) :
    join origin path = below (dropEndSlashes origin) path := by
  have inner : (String.ofList (Text.trimBy isSlash path.toList)).isEmpty = false := by
    simpa using some_left
  simp only [join, below]
  rw [inner]
  rfl

theorem getLast?_join (origin path : String) : (join origin path).toList.getLast? ≠ some '/' := by
  by_cases left : Text.trimBy isSlash path.toList = []
  · rw [join_of_slashes origin left]
    exact getLast?_dropEndSlashes origin
  · intro h
    have last : (Text.trimBy isSlash path.toList).getLast? = some '/' := by
      rwa [join_of_path origin left, below, String.toList_append, String.toList_ofList,
        List.getLast?_append, List.getLast?_eq_some_getLast left, Option.some_or,
        ← List.getLast?_eq_some_getLast left] at h
    cases Text.getLast?_dropEndWhile last

theorem dropEndSlashes_join (origin path : String) :
    dropEndSlashes (join origin path) = join origin path :=
  dropEndSlashes_eq_self (getLast?_join origin path)

end ApiBase

/-! ## Bases -/

/-- The base of all request URLs: a text that has passed the check, without the slashes that stood
at its end. -/
@[ext]
structure ApiBase where
  text : String
  checked : ∃ given, ApiBase.checkUrl given = .ok () ∧ ApiBase.dropEndSlashes given = text
deriving DecidableEq

namespace ApiBase

/-- The base whose text is left of a text, if that passes the check. -/
def accept (given text : String) (cut : dropEndSlashes given = text) : Except Fault ApiBase :=
  match checked : checkUrl given with
  | .error fault => .error fault
  | .ok () => .ok ⟨text, given, checked, cut⟩

/-- The base that is a path below an origin: the two joined, if both the origin and the whole pass
the check. -/
def belowOrigin (origin : Option String) (path : String) : Except Fault ApiBase :=
  match origin.bind Text.nonBlank? with
  | none => .error .originRequired
  | some origin => do
    checkUrl origin
    let joined := join origin path
    accept joined joined (dropEndSlashes_join origin path)

/-- The base that a text and an origin give: the text itself if it is a URL, whatever the origin,
and else the path it names below the origin. -/
def resolve (origin : Option String) (base : String) : Except Fault ApiBase :=
  let base := Text.trim base
  match Url.parse base with
  | .ok _ => accept base (dropEndSlashes base) rfl
  | .error _ => belowOrigin origin base

/-! ## Endpoints -/

/-- A request path without a slash at its start. -/
structure BadPath where
  path : String
deriving DecidableEq, Repr

/-- The refusal for a bad path. -/
def BadPath.toInvalid (bad : BadPath) : Invalid :=
  .format s!"Endpoint paths must begin with '/' but received: {bad.path}"

/-- The URL of an endpoint. -/
def endpoint (base : ApiBase) (path : String) : Except BadPath String :=
  if path.toList.head? == some '/' then .ok (base.text ++ path) else .error ⟨path⟩

/-! ## Lemmas -/

section Accepting

variable {given text : String} {cut : dropEndSlashes given = text}

theorem map_accept :
    (accept given text cut).map ApiBase.text = (checkUrl given).map fun _ => text := by
  unfold accept
  split
  · rename_i fault failed
    rw [failed]
    rfl
  · rename_i passed
    show Except.ok text = _
    rw [passed]
    rfl

theorem accept_eq_ok_iff {base : ApiBase} :
    accept given text cut = .ok base ↔ checkUrl given = .ok () ∧ base.text = text := by
  unfold accept
  split
  · rename_i fault failed
    simp [failed]
  · rename_i passed
    constructor
    · intro h
      exact ⟨passed, by rw [← Except.ok.inj h]⟩
    · rintro ⟨-, kept⟩
      exact congrArg Except.ok (ApiBase.ext kept.symm)

theorem checkUrl_of_accept_error {fault : Fault} (h : accept given text cut = .error fault) :
    checkUrl given = .error fault := by
  unfold accept at h
  split at h
  · rename_i other failed
    cases h
    exact failed
  · cases h

end Accepting

end ApiBase

end Fleet

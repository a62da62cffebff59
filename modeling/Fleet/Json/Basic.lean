/-
JSON values. An object is the list of its members in the order they were written, so a value
can be turned back into text without losing that order; looking a key up takes the first member
of that name, and reading keeps one member per name (`ofMembers`).
-/
import Fleet.Number.Binary64

namespace Fleet

/-- A JSON number: an integer kept exactly, or a binary64 number. Reading keeps integers from
`-2 ^ 63` up to below `2 ^ 64` and rounds all others. -/
inductive Json.Number where
  | integer (n : Int)
  | binary (x : Binary64)
deriving DecidableEq

/-- A JSON value. -/
inductive Json where
  | null
  | bool (b : Bool)
  | number (n : Json.Number)
  | text (s : String)
  | array (items : List Json)
  | object (members : List (String × Json))

namespace Json

instance : Inhabited Json := ⟨null⟩

/-! ## Equality -/

mutual

/-- Decides equality of two values. -/
protected def decEq : (a b : Json) → Decidable (a = b)
  | .null, .null => isTrue rfl
  | .bool a, .bool b => decidable_of_iff (a = b) (by simp)
  | .number a, .number b => decidable_of_iff (a = b) (by simp)
  | .text a, .text b => decidable_of_iff (a = b) (by simp)
  | .array a, .array b =>
    match Json.decEqItems a b with
    | isTrue h => isTrue (by rw [h])
    | isFalse h => isFalse (by simpa using h)
  | .object a, .object b =>
    match Json.decEqMembers a b with
    | isTrue h => isTrue (by rw [h])
    | isFalse h => isFalse (by simpa using h)
  | .null, .bool _ | .null, .number _ | .null, .text _ | .null, .array _ | .null, .object _
  | .bool _, .null | .bool _, .number _ | .bool _, .text _ | .bool _, .array _ | .bool _, .object _
  | .number _, .null | .number _, .bool _ | .number _, .text _ | .number _, .array _
  | .number _, .object _
  | .text _, .null | .text _, .bool _ | .text _, .number _ | .text _, .array _ | .text _, .object _
  | .array _, .null | .array _, .bool _ | .array _, .number _ | .array _, .text _
  | .array _, .object _
  | .object _, .null | .object _, .bool _ | .object _, .number _ | .object _, .text _
  | .object _, .array _ => isFalse (by simp)

/-- Decides equality of two lists of array items. -/
protected def decEqItems : (a b : List Json) → Decidable (a = b)
  | [], [] => isTrue rfl
  | [], _ :: _ | _ :: _, [] => isFalse (by simp)
  | a :: as, b :: bs =>
    match Json.decEq a b, Json.decEqItems as bs with
    | isTrue h, isTrue hs => isTrue (by rw [h, hs])
    | isFalse h, _ => isFalse (by simp [h])
    | _, isFalse hs => isFalse (by simp [hs])

/-- Decides equality of two lists of object members. -/
protected def decEqMembers : (a b : List (String × Json)) → Decidable (a = b)
  | [], [] => isTrue rfl
  | [], _ :: _ | _ :: _, [] => isFalse (by simp)
  | (k, a) :: as, (l, b) :: bs =>
    if hk : k = l then
      match Json.decEq a b, Json.decEqMembers as bs with
      | isTrue h, isTrue hs => isTrue (by rw [hk, h, hs])
      | isFalse h, _ => isFalse (by simp [h])
      | _, isFalse hs => isFalse (by simp [hs])
    else isFalse (by simp [hk])

end

instance : DecidableEq Json := Json.decEq

/-! ## Members -/

/-- The members of an object; nothing for other values. -/
def members? : Json → Option (List (String × Json))
  | .object members => some members
  | _ => none

/-- The items of an array; nothing for other values. -/
def items? : Json → Option (List Json)
  | .array items => some items
  | _ => none

/-- The characters of a text; nothing for other values. -/
def text? : Json → Option String
  | .text s => some s
  | _ => none

/-- The member of an object under a key. -/
def get? (value : Json) (key : String) : Option Json :=
  value.members?.bind (·.lookup key)

/-- The value at the end of a path of keys through nested objects. -/
def at? (value : Json) (path : List String) : Option Json :=
  path.foldlM get? value

/-- The members with `key` set to `value`: in place if the key is there, else at the end. -/
def setMember (key : String) (value : Json) : List (String × Json) → List (String × Json)
  | [] => [(key, value)]
  | (k, v) :: rest => if k = key then (k, value) :: rest else (k, v) :: setMember key value rest

/-- The object made of members written in this order: of a repeated key the first place and the
last value are kept. -/
def ofMembers (members : List (String × Json)) : Json :=
  .object (members.foldl (fun kept m => setMember m.1 m.2 kept) [])

/-- Whether no object in the value has two members of one name. -/
inductive WellFormed : Json → Prop
  | null : WellFormed .null
  | bool (b : Bool) : WellFormed (.bool b)
  | number (n : Number) : WellFormed (.number n)
  | text (s : String) : WellFormed (.text s)
  | array {items : List Json} : (∀ v ∈ items, WellFormed v) → WellFormed (.array items)
  | object {members : List (String × Json)} : (members.map (·.1)).Nodup →
      (∀ m ∈ members, WellFormed m.2) → WellFormed (.object members)

/-! ## Lemmas -/

@[simp] theorem at?_nil (value : Json) : value.at? [] = some value := rfl

theorem at?_cons (value : Json) (key : String) (path : List String) :
    value.at? (key :: path) = (value.get? key).bind (·.at? path) := by
  cases h : value.get? key <;> simp [at?, List.foldlM, h]

end Json

end Fleet

/-
Records in JSON. A record is written as an object, whose unknown members are ignored, or as an
array of its fields in their order, which may be shorter than the record but not longer. A field
is required, has a default, or is optional; only an optional field may be null.
-/
import Fleet.Json.Basic

namespace Fleet.Json

/-! ## Decoding -/

/-- The fields of a record by name, for a record with the fields `names` in this order. -/
def fields? (names : List String) : Json → Option (List (String × Json))
  | .object members => some members
  | .array items => if items.length ≤ names.length then some (names.zip items) else none
  | _ => none

/-- A field that must be there. -/
def required? {α : Type} (fields : List (String × Json)) (name : String)
    (decode? : Json → Option α) : Option α :=
  (fields.lookup name).bind decode?

/-- A field that has a value when it is left out. -/
def defaulted? {α : Type} (fields : List (String × Json)) (name : String) (default : α)
    (decode? : Json → Option α) : Option α :=
  match fields.lookup name with
  | some value => decode? value
  | none => some default

/-- A field that may be left out or null. -/
def optional? {α : Type} (fields : List (String × Json)) (name : String)
    (decode? : Json → Option α) : Option (Option α) :=
  match fields.lookup name with
  | none | some .null => some none
  | some value => (decode? value).map some

/-- A natural number below a bound; only integers are numbers here. -/
def natBelow? (bound : Nat) : Json → Option Nat
  | .number (.integer n) => if 0 ≤ n ∧ n < bound then some n.toNat else none
  | _ => none

/-- The items of an array, if each of them decodes. -/
def listOf? {α : Type} (decode? : Json → Option α) (value : Json) : Option (List α) :=
  value.items?.bind (·.mapM decode?)

/-! ## Encoding -/

/-- The object of the fields that have a value. -/
def ofFields (fields : List (String × Option Json)) : Json :=
  .object (fields.filterMap fun field => field.2.map (field.1, ·))

/-- A text as a field that has a value. -/
def ofText (s : String) : Option Json := some (.text s)

/-- An optional text as a field. -/
def ofText? (s : Option String) : Option Json := s.map .text

end Fleet.Json

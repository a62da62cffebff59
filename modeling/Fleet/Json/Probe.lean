/-
Reading loosely structured values. A property may stand at any of several places; the first
place that holds a usable value wins. A text is usable when something is left of it after
trimming, a number when it is finite, and a text may spell a number.
-/
import Fleet.Json.Printer
import Fleet.Number.Numeral
import Fleet.Text.Blank

namespace Fleet.Json

/-- The keys from the outside to the inside that lead to a property. -/
abbrev Path := List String

/-! ## One value -/

/-- A text that is not blank, trimmed. -/
def nonBlank? (value : Json) : Option String := value.text?.bind Text.nonBlank?

/-- A text that is not blank, trimmed, or the text of a number or a truth value. -/
def scalarText? : Json → Option String
  | .number n => some n.toText
  | .bool b => some (if b then "true" else "false")
  | value => value.nonBlank?

/-- The finite number a text spells, blanks at its ends aside. -/
def numeral? (s : String) : Option Binary64 :=
  match Numeral.read? (Text.trim s) with
  | some (.finite x) => some x
  | _ => none

/-- A finite number, or the one that a text spells. -/
def finite? : Json → Option Binary64
  | .number (.integer n) => Binary64.ofInt? n
  | .number (.binary x) => some x
  | .text s => numeral? s
  | _ => none

/-- The texts among the items of an array; other values have none. -/
def texts (value : Json) : List String := (value.items?.getD []).filterMap text?

theorem nonBlank?_text (s : String) : (text s).nonBlank? = Text.nonBlank? s := by
  rw [nonBlank?, text?, Option.bind_some]

theorem scalarText?_text (s : String) : (text s).scalarText? = Text.nonBlank? s := by
  simp only [scalarText?, nonBlank?_text]

/-! ## The first usable value -/

/-- The text at the first place that holds one that is not blank. -/
def firstText? (value : Json) (places : List Path) : Option String :=
  places.findSome? fun path => (value.at? path).bind nonBlank?

/-- The number at the first place that holds one that is finite. -/
def firstNumber? (value : Json) (places : List Path) : Option Binary64 :=
  places.findSome? fun path => (value.at? path).bind finite?

end Fleet.Json

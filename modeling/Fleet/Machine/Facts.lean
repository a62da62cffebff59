/-
Snapshots as lines for display. A key becomes a label of capitalized words, a value becomes a
text, and only the first lines of a snapshot are kept.
-/
import Fleet.Json.Printer
import Fleet.Machine.Record
import Fleet.Text.Split

namespace Fleet

/-! ## Labels -/

/-- What separates the words of a key. -/
def isKeySeparator (c : Char) : Bool := c == '_' || c == '-' || Text.isBlank c

/-- A word with its first character in upper case. -/
def capitalize : List Char → List Char
  | [] => []
  | c :: cs => Text.upperChar c ++ cs

/-- A key as capitalized words with single spaces between them; a key without words stays as it
is. -/
def humanize (key : String) : String :=
  match Text.wordsBy isKeySeparator key.toList with
  | [] => key
  | words => String.ofList ([' '].intercalate (words.map capitalize))

/-! ## Values -/

/-- A reported value for display: texts as they are, nothing as a dash, and all else as JSON. -/
def formatFact : Json → String
  | .null => "—"
  | .text s => s
  | value => value.compact

/-! ## Lines -/

/-- How many lines of a snapshot are kept. -/
def FactLine.limit : Nat := 12

/-- The first lines of a snapshot, in its order; only an object has any. -/
def factLines (snapshot : Json) (updatedAt : Option String) : List FactLine :=
  ((snapshot.members?.getD []).take FactLine.limit).map fun (key, value) =>
    ⟨humanize key, formatFact value, updatedAt⟩

theorem length_factLines_le (snapshot : Json) (updatedAt : Option String) :
    (factLines snapshot updatedAt).length ≤ FactLine.limit := by
  rw [factLines, List.length_map]
  exact List.length_take_le FactLine.limit _

end Fleet

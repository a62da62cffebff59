/-
The compact text of a JSON value: no blanks, members in their order, and only the characters
that must be escaped escaped. Integers are written in full; other numbers take the shortest
digits, positionally between `10 ^ -5` and `10 ^ 16`.
-/
import Fleet.Json.Basic
import Fleet.Number.Layout

namespace Fleet.Json

/-- Binary numbers are positional from `10 ^ -5` to below `10 ^ 16`, with a fraction digit. -/
def amount : Layout := ⟨some (-5, 16), true⟩

/-- The text of a number. -/
def Number.toText : Number → String
  | .integer n => toString n
  | .binary x => amount.text x

/-- The escape of a control character without a letter of its own. -/
def hexEscape (c : Char) : List Char :=
  ['\\', 'u', '0', '0', Nat.digitChar (c.toNat / 16), Nat.digitChar (c.toNat % 16)]

/-- A character as it stands in a quoted text. -/
def escape (c : Char) : List Char :=
  if c == '"' then ['\\', '"']
  else if c == '\\' then ['\\', '\\']
  else if c == '\x08' then ['\\', 'b']
  else if c == '\x0c' then ['\\', 'f']
  else if c == '\n' then ['\\', 'n']
  else if c == '\r' then ['\\', 'r']
  else if c == '\t' then ['\\', 't']
  else if c.toNat < 0x20 then hexEscape c
  else [c]

/-- A text in quotes. -/
def quote (s : String) : List Char := '"' :: s.toList.flatMap escape ++ ['"']

mutual

/-- The characters of a value. -/
def chars : Json → List Char
  | .null => "null".toList
  | .bool b => (if b then "true" else "false").toList
  | .number n => n.toText.toList
  | .text s => quote s
  | .array items => '[' :: itemChars items ++ [']']
  | .object members => '\x7b' :: memberChars members ++ ['\x7d']

/-- The characters of array items with commas between them. -/
def itemChars : List Json → List Char
  | [] => []
  | [v] => v.chars
  | v :: w :: rest => v.chars ++ ',' :: itemChars (w :: rest)

/-- The characters of object members with commas between them. -/
def memberChars : List (String × Json) → List Char
  | [] => []
  | [(k, v)] => quote k ++ ':' :: v.chars
  | (k, v) :: m :: rest => quote k ++ ':' :: v.chars ++ ',' :: memberChars (m :: rest)

end

/-- The compact text of a value. -/
def compact (value : Json) : String := String.ofList value.chars

end Fleet.Json

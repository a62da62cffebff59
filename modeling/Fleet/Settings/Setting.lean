/-
Settings as their sources give them. A setting is a value without a fixed type, and a reader of
settings converts what it finds: texts that spell numbers count as numbers, and scalars count as
texts. Setting a value inside a table makes the tables and lists on the way to it.
-/
import Fleet.Json.Basic
import Fleet.Number.Layout
import Fleet.Number.Numeral
import Fleet.Text.Case

namespace Fleet

/-- A value of a settings source. -/
inductive Setting where
  | nothing
  | truth (b : Bool)
  | integer (n : Int)
  | real (x : Real64)
  | text (s : String)
  | list (items : List Setting)
  | table (rows : List (String × Setting))

namespace Setting

instance : Inhabited Setting := ⟨nothing⟩

/-! ## Conversions -/

/-- The text of a number that need not be finite. -/
def realText : Real64 → String
  | .finite x => Layout.plain.text x
  | .infinite negative => if negative then "-inf" else "inf"
  | .notANumber => "NaN"

/-- The text a scalar stands for. -/
def text? : Setting → Option String
  | truth b => some (if b then "true" else "false")
  | integer n => some (toString n)
  | real x => some (realText x)
  | text s => some s
  | _ => none

/-- The largest number of seconds. -/
def maxNatural : Nat := UInt64.size - 1

/-- Whether an integer fits 64 bits with a sign. -/
def isSigned64 (n : Int) : Bool := -0x8000000000000000 ≤ n && n < 0x8000000000000000

/-- The natural number nearest to a number, within the range. -/
def realNatural : Real64 → Nat
  | .finite x => min x.round.toNat maxNatural
  | .infinite negative => if negative then 0 else maxNatural
  | .notANumber => 0

/-- The words that stand for one and for zero. -/
def words : List (String × Nat) :=
  [("true", 1), ("on", 1), ("yes", 1), ("false", 0), ("off", 0), ("no", 0)]

/-- The natural number a text spells, with an optional plus sign. -/
def numeralNatural? (s : String) : Option Nat :=
  if s.toList.head? == some '-' then none else (Numeral.integer? s).map Int.toNat

/-- The natural number a scalar stands for. -/
def natural? : Setting → Option Nat
  | truth b => some b.toNat
  | integer n => if n < 0 then none else some n.toNat
  | real x => some (realNatural x)
  | text s => (words.lookup (Text.lower s)).or (numeralNatural? s)
  | _ => none

/-- The natural number a scalar stands for, if it is not too large. -/
def naturalUpTo? (bound : Nat) (setting : Setting) : Option Nat :=
  setting.natural?.bind fun n => if n ≤ bound then some n else none

/-! ## Rows -/

/-- The rows of a table; other values have none. -/
def rows : Setting → List (String × Setting)
  | table rows => rows
  | _ => []

/-- The items of a list; other values have none. -/
def items : Setting → List Setting
  | list items => items
  | _ => []

/-- The rows with the value under a key replaced, or added at the end. -/
def setRow (key : String) (value : Setting) :
    List (String × Setting) → List (String × Setting)
  | [] => [(key, value)]
  | (k, v) :: rest => if k = key then (k, value) :: rest else (k, v) :: setRow key value rest

/-- The value under a key of a table. -/
def row (setting : Setting) (key : String) : Setting :=
  (setting.rows.lookup key).getD nothing

/-- The value as a table with a row set. -/
def withRow (setting : Setting) (key : String) (value : Setting) : Setting :=
  table (setRow key value setting.rows)

/-! ## Merging -/

mutual

/-- The old value overlaid with a new one: tables row by row, anything else by replacement. -/
def overlay (new old : Setting) : Setting :=
  match new with
  | table rows =>
    overlayRows rows (match old with
      | nothing => table []
      | old => old)
  | nothing => nothing
  | truth b => truth b
  | integer n => integer n
  | real x => real x
  | text s => text s
  | list items => list items

/-- The old value with every row overlaid in turn. -/
def overlayRows : List (String × Setting) → Setting → Setting
  | [], old => old
  | (key, new) :: rest, old => overlayRows rest (old.withRow key (overlay new (old.row key)))

end

/-- One step from a setting to a part of it. -/
inductive Step where
  | key (name : String)
  | index (i : Int)
deriving DecidableEq, Repr

/-- The list with the item at an index changed. An index past the end makes the items up to it,
one before the start those in front, and negative indices count from the end. -/
def changeItem (i : Int) (change : Setting → Setting) (items : List Setting) : List Setting :=
  let fromEnd := (items.length : Int) + i
  if 0 ≤ i then
    (items ++ List.replicate (i.toNat + 1 - items.length) nothing).modify i.toNat change
  else if 0 ≤ fromEnd then items.modify fromEnd.toNat change
  else (List.replicate (-fromEnd).toNat nothing ++ items).modify 0 change

/-- The setting overlaid with a value at the end of a way through it. -/
def place : List Step → Setting → Setting → Setting
  | [], new, old => overlay new old
  | .key name :: rest, new, old => old.withRow name (place rest new (old.row name))
  | .index i :: rest, new, old => list (changeItem i (place rest new) old.items)

/-! ## From JSON -/

mutual

/-- A JSON value as a setting. -/
def ofJson : Json → Setting
  | .null => nothing
  | .bool b => truth b
  | .number (.integer n) => integer n
  | .number (.binary x) => real (.finite x)
  | .text s => text s
  | .array items => list (ofItems items)
  | .object members => table (ofMembers members)

/-- The items of an array as settings. -/
def ofItems : List Json → List Setting
  | [] => []
  | value :: rest => ofJson value :: ofItems rest

/-- The members of an object as rows. -/
def ofMembers : List (String × Json) → List (String × Setting)
  | [] => []
  | (key, value) :: rest => (key, ofJson value) :: ofMembers rest

end

end Setting

end Fleet

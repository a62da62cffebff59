/-
The tables of a TOML document while it is read. A table remembers how it came about: a header
opens a table once, dotted keys extend only tables that no header opened, and a value is never
extended.
-/
import Fleet.Settings.Setting

namespace Fleet.Toml

/-- How a table came about. -/
inductive Origin where
  /-- On the way to another table. -/
  | implied
  /-- Under dotted keys. -/
  | dotted
  /-- By a header of its own. -/
  | opened
deriving DecidableEq, Repr

/-- What stands under a key. -/
inductive Node where
  | value (setting : Setting)
  | table (origin : Origin) (rows : List (String × Node))
  /-- A list of tables, last one first. -/
  | tables (elements : List (List (String × Node)))

/-- The rows of a table. -/
abbrev Rows := List (String × Node)

namespace Node

/-- The rows with the node under a key replaced, or added at the end. -/
def setRow (key : String) (node : Node) : Rows → Rows
  | [] => [(key, node)]
  | (k, n) :: rest => if k = key then (k, node) :: rest else (k, n) :: setRow key node rest

mutual

/-- The setting a node stands for. -/
def setting : Node → Setting
  | value s => s
  | table _ rows => .table (settingRows rows)
  | tables elements => .list (settingTables elements).reverse

/-- The settings of rows. -/
def settingRows : List (String × Node) → List (String × Setting)
  | [] => []
  | (key, node) :: rest => (key, setting node) :: settingRows rest

/-- The settings of tables. -/
def settingTables : List (List (String × Node)) → List Setting
  | [] => []
  | rows :: rest => .table (settingRows rows) :: settingTables rest

end

end Node

/-! ## Extending tables -/

/-- The rows with a change made to the table at the end of a header's path. -/
def inside (change : Rows → Option Rows) : List String → Rows → Option Rows
  | [], rows => change rows
  | key :: path, rows =>
    match rows.lookup key with
    | none => (inside change path []).map fun inner =>
        Node.setRow key (.table .implied inner) rows
    | some (.table origin inner) => (inside change path inner).map fun inner =>
        Node.setRow key (.table origin inner) rows
    | some (.tables (last :: earlier)) => (inside change path last).map fun last =>
        Node.setRow key (.tables (last :: earlier)) rows
    | some _ => none

/-- The rows with a table opened by a header. -/
def openTable (key : String) (rows : Rows) : Option Rows :=
  match rows.lookup key with
  | none => some (Node.setRow key (.table .opened []) rows)
  | some (.table .implied inner) => some (Node.setRow key (.table .opened inner) rows)
  | some _ => none

/-- The rows with one more element of a list of tables. -/
def openElement (key : String) (rows : Rows) : Option Rows :=
  match rows.lookup key with
  | none => some (Node.setRow key (.tables [[]]) rows)
  | some (.tables elements) => some (Node.setRow key (.tables ([] :: elements)) rows)
  | some _ => none

/-- The rows with a value under a dotted key. A list of tables on the way stands for its last
element, but only tables below that element can be extended. -/
def insertValue (value : Setting) : List String → Rows → Option Rows
  | [], _ => none
  | [key], rows =>
    match rows.lookup key with
    | none => some (Node.setRow key (.value value) rows)
    | some _ => none
  | key :: path, rows =>
    match rows.lookup key with
    | none => (insertValue value path []).map fun inner =>
        Node.setRow key (.table .dotted inner) rows
    | some (.table origin inner) =>
      if origin == .opened then none
      else (insertValue value path inner).map fun inner =>
        Node.setRow key (.table origin inner) rows
    | some (.tables (last :: earlier)) =>
      if path.length == 1 then none
      else (insertValue value path last).map fun last =>
        Node.setRow key (.tables (last :: earlier)) rows
    | some _ => none

end Fleet.Toml

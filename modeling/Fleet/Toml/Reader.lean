/-
Reading TOML documents: one statement after another, each a header or a value under a key. Values
may stand in one another, and names may follow one another in a key, up to a bound. The reader
says only whether a document is well formed, not where a bad one goes wrong.
-/
import Fleet.Text.Blank
import Fleet.Toml.Document
import Fleet.Toml.Scalar

namespace Fleet.Toml

/-! ## Space -/

/-- What follows blank space and a comment within a line. -/
def skipComment? (cs : List Char) : Option (List Char) :=
  match cs.dropWhile isSpace with
  | '#' :: rest =>
    match rest.dropWhile isPlain with
    | [] => some []
    | '\n' :: tail => some ('\n' :: tail)
    | '\r' :: '\n' :: tail => some ('\r' :: '\n' :: tail)
    | _ => none
  | rest => some rest

/-- What follows blank space, comments and line breaks. -/
def skipLines? : Nat → List Char → Option (List Char)
  | 0, _ => none
  | fuel + 1, cs =>
    match skipComment? cs with
    | none => none
    | some rest =>
      match lineBreak? rest with
      | some tail => skipLines? fuel tail
      | none => some rest

/-- What follows a character and the space before it. -/
def skipTo? (c : Char) (cs : List Char) : Option (List Char) :=
  match skipLines? (cs.length + 1) cs with
  | some (d :: rest) => if d == c then some rest else none
  | _ => none

/-- What follows the end of a line. -/
def endLine? (cs : List Char) : Option (List Char) :=
  match skipComment? cs with
  | some [] => some []
  | some rest => lineBreak? rest
  | none => none

/-! ## Keys -/

/-- The characters of a bare key. -/
def isKeyChar (c : Char) : Bool := c.isAlphanum || c == '_' || c == '-'

/-- Reads a key without dots. -/
def simpleKey? (cs : List Char) : Step String :=
  match cs with
  | '"' :: rest => oneLine? '"' (cs.length + 1) [] rest
  | '\'' :: rest => oneLine? '\'' (cs.length + 1) [] rest
  | _ =>
    let key := cs.takeWhile isKeyChar
    if key.isEmpty then none else some (String.ofList key, cs.dropWhile isKeyChar)

/-- How deep values may stand in one another, and how many names a key may have. -/
def maxDepth : Nat := 80

/-- Reads a key of at most so many names, with dots between them and blank space around each. -/
def key? : Nat → List Char → Step (List String)
  | 0, _ => none
  | names + 1, cs =>
    match simpleKey? (cs.dropWhile isSpace) with
    | none => none
    | some (key, rest) =>
      match rest.dropWhile isSpace with
      | '.' :: tail => (key? names tail).map fun (path, rest) => (key :: path, rest)
      | tail => some ([key], tail)

/-! ## Values -/

mutual

/-- Reads a value in which others may stand `depth` deep. -/
def value? : Nat → Nat → List Char → Step Setting
  | 0, _, _ => none
  | fuel + 1, depth, cs =>
    match cs, depth with
    | '[' :: rest, depth + 1 => items? fuel depth [] rest
    | '\x7b' :: rest, depth + 1 => inlineRows? fuel depth [] rest
    | '"' :: _, _ | '\'' :: _, _ => (quoted? cs).map fun (s, rest) => (.text s, rest)
    | _, _ =>
      match word cs with
      | (word, rest) => (wordSetting? word).map (·, rest)

/-- Reads the rest of an array after the items `read`, last first. -/
def items? : Nat → Nat → List Setting → List Char → Step Setting
  | 0, _, _, _ => none
  | fuel + 1, depth, read, cs =>
    match skipLines? (cs.length + 1) cs with
    | some (']' :: rest) => some (.list read.reverse, rest)
    | some rest =>
      match value? fuel depth rest with
      | none => none
      | some (value, rest) =>
        match skipLines? (rest.length + 1) rest with
        | some (',' :: rest) => items? fuel depth (value :: read) rest
        | some (']' :: rest) => some (.list (value :: read).reverse, rest)
        | _ => none
    | none => none

/-- Reads the rest of an inline table after some of its rows. -/
def inlineRows? : Nat → Nat → Rows → List Char → Step Setting
  | 0, _, _, _ => none
  | fuel + 1, depth, read, cs =>
    match skipLines? (cs.length + 1) cs with
    | some ('\x7d' :: rest) => some (.table (Node.settingRows read), rest)
    | some rest =>
      match inlineRow? fuel depth read rest with
      | none => none
      | some (rows, rest) =>
        match skipLines? (rest.length + 1) rest with
        | some (',' :: rest) => inlineRows? fuel depth rows rest
        | some ('\x7d' :: rest) => some (.table (Node.settingRows rows), rest)
        | _ => none
    | none => none

/-- Reads one row of an inline table and adds it to the rows `read`. -/
def inlineRow? : Nat → Nat → Rows → List Char → Option (Rows × List Char)
  | 0, _, _, _ => none
  | fuel + 1, depth, read, cs => do
    let (path, rest) ← key? maxDepth cs
    let rest ← skipTo? '=' rest
    let (value, rest) ← value? fuel depth (← skipLines? (rest.length + 1) rest)
    return (← insertValue value path read, rest)

end

/-! ## Statements -/

/-- A document that is read: its tables, and the table the next value goes to. -/
structure Document where
  rows : Rows := []
  current : List String := []

/-- Reads the key of a header up to its closing brackets. -/
def header? (closing : List Char) (cs : List Char) : Step (List String) :=
  match key? maxDepth cs with
  | some (path, rest) =>
    if closing.isPrefixOf rest then some (path, rest.drop closing.length) else none
  | none => none

/-- The document with a table or an element of a list of tables opened. -/
def Document.openAt (document : Document) (change : String → Rows → Option Rows)
    (path : List String) : Option Document :=
  match path.getLast? with
  | some key =>
    (inside (change key) path.dropLast document.rows).map fun rows => ⟨rows, path⟩
  | none => none

/-- The document with a value in the current table. -/
def Document.insert (document : Document) (path : List String) (value : Setting) :
    Option Document :=
  (inside (insertValue value path) document.current document.rows).map fun rows =>
    { document with rows }

/-- Reads one statement, which does not begin with blank space. -/
def Document.statement? (document : Document) (cs : List Char) : Step Document :=
  match cs with
  | '[' :: '[' :: rest =>
    match header? "]]".toList rest with
    | some (path, rest) => (document.openAt openElement path).map (·, rest)
    | none => none
  | '[' :: rest =>
    match header? "]".toList rest with
    | some (path, rest) => (document.openAt openTable path).map (·, rest)
    | none => none
  | _ =>
    match key? maxDepth cs with
    | some (path, '=' :: rest) =>
      match value? (3 * rest.length + 3) maxDepth (rest.dropWhile isSpace) with
      | some (value, rest) => (document.insert path value).map (·, rest)
      | none => none
    | _ => none

/-- Reads the statements of a text. -/
def Document.run? : Nat → Document → List Char → Option Document
  | 0, _, _ => none
  | fuel + 1, document, cs =>
    match skipLines? (cs.length + 1) cs with
    | none => none
    | some [] => some document
    | some rest =>
      match document.statement? rest with
      | none => none
      | some (document, rest) =>
        match endLine? rest with
        | some rest => Document.run? fuel document rest
        | none => none

/-! ## Dates as tables -/

/-- The key whose value makes a date of the table in which it is the first key in order. -/
def dateKey : String := "$__toml_private_datetime"

/-- Whether a table is to be read as a date. -/
def isDateTable (rows : List (String × Setting)) : Bool :=
  rows.any (·.1 == dateKey) && rows.all fun row => !decide (row.1 < dateKey)

/-- The date that the text under the date key spells. -/
def dateOf? (rows : List (String × Setting)) : Option Setting :=
  match rows.lookup dateKey with
  | some (.text s) => (dateText? s.toList).map fun date => .text (String.ofList date)
  | _ => none

mutual

/-- A setting with dates in the place of the tables that are read as such. -/
def withDates? : Setting → Option Setting
  | .table rows =>
    if isDateTable rows then dateOf? rows else (rowsWithDates? rows).map .table
  | .list items => (itemsWithDates? items).map .list
  | setting => some setting

/-- The rows of a table with dates. -/
def rowsWithDates? : List (String × Setting) → Option (List (String × Setting))
  | [] => some []
  | (key, value) :: rest => do return (key, ← withDates? value) :: (← rowsWithDates? rest)

/-- The items of a list with dates. -/
def itemsWithDates? : List Setting → Option (List Setting)
  | [] => some []
  | value :: rest => do return (← withDates? value) :: (← itemsWithDates? rest)

end

/-! ## Documents -/

/-- The rows of a well-formed document. -/
def read? (text : String) : Option (List (String × Setting)) :=
  let cs := Text.dropByteOrderMark text.toList
  match Document.run? (cs.length + 1) {} cs with
  | none => none
  | some document =>
    match withDates? (.table (Node.settingRows document.rows)) with
    | some (.table rows) => some rows
    | _ => none

end Fleet.Toml

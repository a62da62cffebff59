/-
Where settings come from: a file in TOML or JSON, and environment variables. Each source gives
values under keys; a key is a way through tables and lists, and a later source overlays an
earlier one.
-/
import Fleet.Json.Reader
import Fleet.Settings.Setting
import Fleet.Text.Blank
import Fleet.Toml.Reader

namespace Fleet.Settings

/-! ## Keys -/

/-- The characters of a name in a key. -/
def isNameChar (c : Char) : Bool := c.isAlphanum || c == '_' || c == '-'

/-- The steps of a key after its first name: a dot and a name, or an index in brackets. -/
def steps? : Nat → List Char → Option (List Setting.Step)
  | _, [] => some []
  | 0, _ => none
  | fuel + 1, '.' :: cs =>
    let name := cs.takeWhile isNameChar
    if name.isEmpty then none
    else (steps? fuel (cs.dropWhile isNameChar)).map (.key (String.ofList name) :: ·)
  | fuel + 1, '[' :: cs =>
    match cs.takeWhile (· != ']'), cs.dropWhile (· != ']') with
    | inner, ']' :: rest =>
      match Text.trimBy Toml.isSpace inner with
      | '+' :: _ => none
      | digits =>
        ((Numeral.integer? (String.ofList digits)).filter Setting.isSigned64).bind fun i =>
          (steps? fuel rest).map (.index i :: ·)
    | _, _ => none
  | _, _ => none

/-- The steps a key stands for; a key that is not well formed is one name. -/
def stepsOf (key : String) : List Setting.Step :=
  let cs := key.toList
  let name := cs.takeWhile isNameChar
  if name.isEmpty then [.key key]
  else
    match steps? cs.length (cs.dropWhile isNameChar) with
    | some steps => .key (String.ofList name) :: steps
    | none => [.key key]

/-- The setting overlaid with values under keys, in order. -/
def overlayAll (setting : Setting) (rows : List (String × Setting)) : Setting :=
  rows.foldl (fun setting row => Setting.place (stepsOf row.1) row.2 setting) setting

/-! ## Files -/

/-- A text file. -/
structure File where
  name : String
  content : String
deriving DecidableEq, Repr

/-- A language of settings files. -/
inductive Language where
  | toml
  | json
deriving DecidableEq, Repr

/-- The ending of a file's name for each language, in the order in which they are tried. -/
def endings : List (List Char × Language) := [(".toml".toList, .toml), (".json".toList, .json)]

/-- The language a file's name stands for. -/
def languageOf? (name : String) : Option Language :=
  (endings.find? fun ending =>
    ending.1.isSuffixOf name.toList && ending.1.length < name.toList.length).map (·.2)

/-- The file of a name; a later one replaces an earlier one. -/
def fileNamed? (files : List File) (name : String) : Option File :=
  files.reverse.find? (·.name == name)

/-- The file that a name without its ending finds. -/
def findByStem (files : List File) (stem : String) : Option (File × Language) :=
  endings.findSome? fun ending =>
    (fileNamed? files (stem ++ String.ofList ending.1)).map (·, ending.2)

/-- Whether a part of a path leads nowhere else: it is empty or a single dot. -/
def isIdle (part : List Char) : Bool := part.isEmpty || part == ['.']

/-- The file that a path finds: the one of that very name if its language is known, and else,
if there is none of that name, one of that name with an ending. A path that ends in an idle part
names no file itself, and there are no other directories. -/
def findFile (files : List File) (path : String) : Option (File × Language) :=
  let parts := Text.splitBy (· == '/') path.toList
  match parts.filter (!isIdle ·) with
  | [part] =>
    let name := String.ofList part
    if part == "..".toList then none
    else if parts.getLast?.any isIdle then findByStem files name
    else
      match fileNamed? files name with
      | some file => (languageOf? name).map (file, ·)
      | none => findByStem files name
  | _ => none

/-- The values of a file, unless it is not well formed. -/
def readFile? (language : Language) (content : String) : Option (List (String × Setting)) :=
  let text := String.ofList (Text.dropByteOrderMark content.toList)
  match language with
  | .toml => Toml.read? text
  | .json =>
    match Json.read text with
    | .ok (.object members) => some (Setting.ofMembers members)
    | _ => none

/-! ## Environment -/

/-- An environment variable. -/
structure Variable where
  name : String
  value : String
deriving DecidableEq, Repr

/-- How the names of all settings variables begin, in lower case. -/
def variableStart : List Char := "goosed_".toList

/-- A name with dots for pairs of underscores. -/
def dotted : List Char → List Char
  | '_' :: '_' :: cs => '.' :: dotted cs
  | c :: cs => c :: dotted cs
  | [] => []

/-- The key of a settings variable; the case of its name does not matter. -/
def Variable.key? (var : Variable) : Option String :=
  let name := Text.lowerChars var.name.toList
  if variableStart.isPrefixOf name then
    some (String.ofList (dotted (name.drop variableStart.length)))
  else none

/-- A variable's text as a truth value, an integer, a number, or itself. -/
def guess (value : String) : Setting :=
  match Text.lower value with
  | "true" => .truth true
  | "false" => .truth false
  | _ =>
    let integer := (Numeral.integer? value).filter Setting.isSigned64
    match integer, Numeral.read? value with
    | some n, _ => .integer n
    | none, some x => .real x
    | none, none => .text value

/-- The values of the settings variables. -/
def readVariables (environment : List Variable) : List (String × Setting) :=
  environment.filterMap fun var => var.key?.map (·, guess var.value)

end Fleet.Settings

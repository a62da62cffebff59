/-
URLs read from text, and their text. Reading ignores blanks and control characters at the ends
and line breaks and tabs anywhere; it fails for a text without a scheme and for a bad host or
port, and for nothing else. Credentials are read and left out.
-/
import Fleet.Text.Blank
import Fleet.Url.Host
import Fleet.Url.Segments

namespace Fleet

/-- The path of a URL: segments, or a text that nothing can be resolved against. -/
inductive Url.Path where
  | segments (list : List String)
  | text (s : String)
deriving DecidableEq, Repr

/-- A URL. -/
structure Url where
  scheme : String
  host : Option Url.Host := none
  /-- Absent when it is the one the scheme implies. -/
  port : Option Nat := none
  path : Url.Path
  query : Option String := none
  fragment : Option String := none
deriving DecidableEq, Repr

namespace Url

/-! ## Schemes -/

/-- The schemes that have a host and slashes of either kind, with the port each implies. -/
def specialPorts : List (String × Option Nat) := [
  ("http", some 80), ("https", some 443), ("ws", some 80), ("wss", some 443),
  ("ftp", some 21), ("file", none)]

/-- Whether a scheme is one of those. -/
def isSpecial (scheme : String) : Bool := (specialPorts.lookup scheme).isSome

/-- The port a scheme implies. -/
def impliedPort? (scheme : String) : Option Nat := (specialPorts.lookup scheme).join

/-- The characters of a scheme. -/
def isSchemeChar (c : Char) : Bool := c.isAlphanum || c == '+' || c == '-' || c == '.'

/-- The scheme in lower case and what follows its colon; a scheme begins with a letter. -/
def splitScheme? (cs : List Char) : Option (String × List Char) :=
  match cs.takeWhile isSchemeChar, cs.dropWhile isSchemeChar with
  | c :: name, ':' :: rest =>
    if c.isAlpha then some (String.ofList ((c :: name).map Char.toLower), rest) else none
  | _, _ => none

/-! ## Cleaning -/

/-- What is removed at the ends of a text. -/
def isEdge (c : Char) : Bool := c.toNat ≤ 0x20

/-- What is removed anywhere. -/
def isBreak (c : Char) : Bool := c == '\t' || c == '\n' || c == '\r'

/-- The characters that are read. -/
def clean (text : String) : List Char :=
  (Text.trimBy isEdge text.toList).filter (!isBreak ·)

/-! ## Path, query and fragment -/

/-- The characters before the first `c`, and those behind it if there is one. -/
def splitAt (c : Char) (cs : List Char) : List Char × Option (List Char) :=
  match cs.dropWhile (· != c) with
  | _ :: rest => (cs.takeWhile (· != c), some rest)
  | [] => (cs, none)

/-- A path, query and fragment as they are written. -/
structure Tail where
  path : List Char
  query : Option (List Char)
  fragment : Option (List Char)

/-- The parts of what follows an authority. -/
def Tail.ofChars (cs : List Char) : Tail :=
  let (front, fragment) := splitAt '#' cs
  let (path, query) := splitAt '?' front
  ⟨path, query, fragment⟩

/-- The path after an authority: a special scheme has at least one segment. -/
def rootedPath (special : Bool) (cs : List Char) : Path :=
  match cs with
  | [] => .segments (if special then [""] else [])
  | c :: rest =>
    .segments ((segments special (if isSlash special c then rest else cs)).map String.ofList)

/-- The path without an authority: what does not begin with a slash is a text. -/
def plainPath : List Char → Path
  | '/' :: cs => .segments ((segments false cs).map String.ofList)
  | cs => .text (String.ofList (encode controlSet cs))

/-- The URL made of its parts. -/
def assemble (scheme : String) (host : Option Host) (port : Option Nat) (path : Path)
    (tail : Tail) : Url where
  scheme := scheme
  host := host
  port := port
  path := path
  query := tail.query.map fun q =>
    String.ofList (encode (if isSpecial scheme then specialQuerySet else querySet) q)
  fragment := tail.fragment.map fun f => String.ofList (encode fragmentSet f)

/-! ## The authority -/

/-- What ends an authority. -/
def isAuthorityEnd (special : Bool) (c : Char) : Bool :=
  isSlash special c || c == '?' || c == '#'

/-- The credentials, up to the last at sign, and the rest. -/
def splitCredentials (cs : List Char) : Option (List Char) × List Char :=
  match (cs.reverse.dropWhile (· != '@')).reverse.dropLast, cs.contains '@' with
  | credentials, true => (some credentials, (cs.reverse.takeWhile (· != '@')).reverse)
  | _, false => (none, cs)

/-- The host and what follows it from the first colon outside brackets. -/
def splitHost (bracketed : Bool) : List Char → List Char × List Char
  | [] => ([], [])
  | c :: cs =>
    if c == ':' && !bracketed then ([], c :: cs)
    else
      let inside := if c == '[' then true else if c == ']' then false else bracketed
      let (host, rest) := splitHost inside cs
      (c :: host, rest)

/-- The port after its colon, and what is left: nothing, or a text that begins with a
backslash. -/
def readPort (scheme : String) (cs : List Char) : Except Fault (Option Nat × List Char) :=
  let (digits, rest) := Numeral.spanDigits cs
  let port := Numeral.digitsValue digits
  if !digits.isEmpty && 65535 < port then .error .port
  else if !rest.isEmpty && rest.head? != some '\\' then .error .port
  else if digits.isEmpty || impliedPort? scheme == some port then .ok (none, rest)
  else .ok (some port, rest)

/-- Reads the host of an authority. -/
def readHost (scheme : String) (cs : List Char) : Except Fault Host :=
  if isSpecial scheme then
    if cs.isEmpty then .error .emptyHost else Host.ofSpecial cs
  else Host.ofOther cs

/-- Reads the host and the port of an authority, and gives what is left of it with them; `ended`
tells whether anything follows. -/
def readServer (scheme : String) (cs : List Char) (ended : Bool) :
    Except Fault (Host × Option Nat × List Char) := do
  let (credentials, authority) := splitCredentials cs
  if credentials == some [] && authority.isEmpty && ended then throw .emptyHost
  let (hostText, portText) := splitHost false authority
  let host ← readHost scheme hostText
  if host == .empty && !portText.isEmpty then throw .emptyHost
  let (port, rest) ←
    match portText with
    | _ :: digits => readPort scheme digits
    | [] => pure (none, [])
  if host == .empty && (credentials.any fun c => !c.isEmpty && c != [':']) then throw .emptyHost
  return (host, port, rest)

/-- Reads what follows the slashes before an authority. -/
def readAuthority (scheme : String) (cs : List Char) : Except Fault Url := do
  let ends := isAuthorityEnd (isSpecial scheme)
  let after := cs.dropWhile (!ends ·)
  let (host, port, rest) ← readServer scheme (cs.takeWhile (!ends ·)) (!after.isEmpty)
  let tail := Tail.ofChars (rest ++ after)
  return assemble scheme (some host) port (rootedPath (isSpecial scheme) tail.path) tail

/-! ## Files -/

/-- Whether a text names a drive: a letter and a colon or bar. -/
def isDrive : List Char → Bool
  | [c, d] => c.isAlpha && (d == ':' || d == '|')
  | _ => false

/-- Reads the host of a file; a drive and the local machine are no hosts. -/
def readFileHost (cs : List Char) : Except Fault Host := do
  if cs.isEmpty || isDrive cs then return .empty
  let host ← Host.ofSpecial cs
  return if host == .domain "localhost" then .empty else host

/-- Reads what follows the scheme of a file. -/
def readFile (cs : List Char) : Except Fault Url := do
  match cs with
  | c :: d :: rest =>
    if isSlash true c && isSlash true d then
      let ends := isAuthorityEnd true
      let hostText := rest.takeWhile (!ends ·)
      let host ← readFileHost hostText
      let tail := Tail.ofChars (if isDrive hostText then rest else rest.dropWhile (!ends ·))
      return assemble "file" (some host) none (rootedPath true tail.path) tail
  | _ => pure ()
  let tail := Tail.ofChars cs
  return assemble "file" (some .empty) none (rootedPath true tail.path) tail

/-! ## Whole URLs -/

/-- Reads what follows a scheme. -/
def readAfterScheme (scheme : String) (cs : List Char) : Except Fault Url :=
  if scheme == "file" then readFile cs
  else if isSpecial scheme then readAuthority scheme (cs.dropWhile (isSlash true))
  else
    match cs with
    | '/' :: '/' :: rest => readAuthority scheme rest
    | _ =>
      let tail := Tail.ofChars cs
      .ok (assemble scheme none none (plainPath tail.path) tail)

/-- Reads a URL. -/
def parse (text : String) : Except Fault Url :=
  match splitScheme? (clean text) with
  | some (scheme, rest) => readAfterScheme scheme rest
  | none => .error .relative

/-! ## Text -/

/-- The characters of a path. -/
def Path.chars : Path → List Char
  | segments list => list.flatMap fun segment => '/' :: segment.toList
  | text s => s.toList

/-- The text of a URL. -/
def toText (url : Url) : String :=
  String.ofList (url.scheme.toList ++ [':'] ++
    (match url.host with
      | some host => ['/', '/'] ++ host.chars
      | none => []) ++
    (match url.port with
      | some port => ':' :: Nat.toDigits 10 port
      | none => []) ++
    url.path.chars ++
    (match url.query with
      | some query => '?' :: query.toList
      | none => []) ++
    (match url.fragment with
      | some fragment => '#' :: fragment.toList
      | none => []))

end Url

end Fleet

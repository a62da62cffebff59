/-
Internationalized domain names in ASCII. The characters of a name are folded and brought into
normal form, full stops of any script separate its labels, and then each label outside ASCII is
written in Punycode. A label that is already in Punycode must stand for one that folding and
normal form leave as it is.
-/
import Fleet.Text.Case
import Fleet.Text.Normal
import Fleet.Text.Split
import Fleet.Url.Direction
import Fleet.Url.DomainTable
import Fleet.Url.Joining
import Fleet.Url.Punycode

namespace Fleet.Url.Domain

open Text (inRanges)

/-! ## Characters -/

/-- Whether a character is ASCII. -/
def isAscii (c : Char) : Bool := c.toNat < 0x80

/-- The ASCII characters no host may have. -/
def isDenied (c : Char) : Bool :=
  c.toNat ≤ 0x20 || c == '\x7f' || "%#/:<>?@[\\]^|".toList.contains c

/-- Whether a domain name may hold the character, as it is or folded. -/
def isAccepted (c : Char) : Bool := isAscii c || !inRanges refusedRanges c.toNat

/-- What the characters outside the runs become. -/
def knownFoldings : Std.HashMap Nat (List Nat) :=
  (Text.codeRows foldingText).foldl
    (fun known row =>
      match row with
      | code :: folded => known.insert code folded
      | [] => known)
    ∅

/-- What a character of a domain name becomes. White space of every script becomes the space. -/
def fold (c : Char) : List Char :=
  if isAscii c then [c.toLower]
  else if Text.isBlank c then [' ']
  else if inRanges droppedRanges c.toNat then []
  else
    match knownFoldings[c.toNat]? with
    | some codes => codes.map Char.ofNat
    | none => [Text.shiftBy foldingRuns c]

/-- A name folded and in normal form, if all its characters may stand there. -/
def folded? (name : List Char) : Option (List Char) :=
  if name.all isAccepted then
    let folded := Text.normalForm (name.flatMap fold)
    if folded.any isDenied then none else some folded
  else none

/-! ## Labels -/

/-- How a label in Punycode begins. -/
def codedStart : List Char := "xn--".toList

/-- The most characters Punycode is read from. -/
def maxCoded : Nat := 2000

/-- The most characters that are written in Punycode. -/
def maxPlain : Nat := 1000

/-- Whether folding and normal form leave a label as it is. -/
def isFolded (label : List Char) : Bool :=
  label.all (fun c => isAccepted c && !isDenied c && fold c == [c]) &&
    Text.normalForm label == label

/-- The label that a folded one stands for, which differs if it is in Punycode. -/
def plain? (label : List Char) : Option (List Char) :=
  if codedStart.isPrefixOf label then
    let coded := label.drop codedStart.length
    if label.all isAscii && coded.length ≤ maxCoded then
      (Punycode.decode? coded).filter fun plain => !plain.all isAscii && isFolded plain
    else none
  else some label

/-- Whether a label that is not in Punycode may stand in a domain name. -/
def isProper (plain : List Char) : Bool :=
  plain.all isAscii || (Joining.isProper plain && plain.length ≤ maxPlain)

/-- A folded label in ASCII. -/
def inAscii (label : List Char) : List Char :=
  if label.all isAscii then label else codedStart ++ Punycode.encode label

/-! ## Names -/

/-- The ASCII form of a domain name. -/
def toAscii? (name : List Char) : Option (List Char) := do
  let labels := Text.splitBy (· == '.') (← folded? name)
  let plains ← labels.mapM plain?
  if plains.all isProper && Direction.areClear plains then
    some (['.'].intercalate (labels.map inAscii))
  else none

end Fleet.Url.Domain

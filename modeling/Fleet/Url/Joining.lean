/-
Which marks and joiners a label may hold, and where. A label does not begin with a mark. A joiner
stands behind a virama; the one that keeps letters apart may also stand between two letters that
would join, whatever marks are between them.
-/
import Fleet.Text.Case
import Fleet.Text.Normal
import Fleet.Url.ScriptTable

namespace Fleet.Url.Joining

open Text (inRanges)

/-! ## Classes of characters -/

/-- The combining marks. -/
def isMark (c : Char) : Bool :=
  inRanges nonspacingRanges c.toNat || inRanges spacingRanges c.toNat

/-- The marks that take the vowel from the consonant before them. -/
def isVirama (c : Char) : Bool := Text.combiningClass c == 9

/-- The joiner that keeps letters apart. -/
def nonJoiner : Char := '\u200C'

/-- The joiner that brings letters together. -/
def joiner : Char := '\u200D'

/-- The characters that letters join across. -/
def isTransparent (c : Char) : Bool :=
  inRanges nonspacingRanges c.toNat || transparentCodes.contains c.toNat

/-- The letters that join the one after. -/
def joinsAfter (c : Char) : Bool :=
  inRanges joinsBothRanges c.toNat || inRanges joinsAfterRanges c.toNat

/-- The letters that join the one before. -/
def joinsBefore (c : Char) : Bool :=
  inRanges joinsBothRanges c.toNat || inRanges joinsBeforeRanges c.toNat

/-! ## The rules -/

/-- Whether the first character that letters do not join across is in the class `p`. -/
def startsWith (p : Char → Bool) (cs : List Char) : Bool :=
  match cs.dropWhile isTransparent with
  | c :: _ => p c
  | [] => false

/-- Whether a joiner may stand between the text `before`, read backwards, and `after`. -/
def mayStand (c : Char) (before after : List Char) : Bool :=
  before.head?.any isVirama ||
    (c == nonJoiner && startsWith joinsAfter before && startsWith joinsBefore after)

/-- Whether every joiner of the label may stand where it does, behind the text `before`, read
backwards. -/
def fits (before : List Char) : List Char → Bool
  | [] => true
  | c :: rest =>
    ((c != nonJoiner && c != joiner) || mayStand c before rest) && fits (c :: before) rest

/-- Whether the marks and joiners of a label may stand where they do. -/
def isProper (label : List Char) : Bool := !label.head?.any isMark && fits [] label

end Fleet.Url.Joining

/-
Directions of writing in domain names. A name with a character of right-to-left text must be
clear to read: each label begins with a letter that settles its direction, ends with a letter or
digit of that direction, and holds no letter of the other one.
-/
import Fleet.Text.Case
import Fleet.Url.ScriptTable

namespace Fleet.Url

open Text (inRanges)

/-- How a character takes part in the direction of a text. -/
inductive Direction where
  | leftToRight
  | rightToLeft
  /-- A digit that runs with the text around it. -/
  | europeanDigit
  /-- A digit of right-to-left text. -/
  | arabicDigit
  /-- A mark on the character before it. -/
  | nonspacing
  /-- Anything without a direction of its own. -/
  | neutral
deriving DecidableEq, Repr

namespace Direction

/-- The direction of a character. -/
def of (c : Char) : Direction :=
  let n := c.toNat
  if n < 0x80 then
    if c.isAlpha then leftToRight else if c.isDigit then europeanDigit else neutral
  else if inRanges nonspacingRanges n then nonspacing
  else if inRanges rightToLeftRanges n then rightToLeft
  else if inRanges neutralRanges n then neutral
  else if inRanges arabicDigitRanges n then arabicDigit
  else if inRanges europeanDigitRanges n then europeanDigit
  else leftToRight

/-- Whether a character makes its domain name a right-to-left one. Hebrew is the first script of
that kind. -/
def isRight (c : Char) : Bool :=
  0x590 ≤ c.toNat && [rightToLeft, arabicDigit].contains (of c)

/-- Whether directions after the first, without marks at the end and last one first, make a label
from left to right. -/
def endsLeft : List Direction → Bool
  | [] => true
  | last :: middle =>
    (last == leftToRight || last == europeanDigit) &&
      middle.all fun d => d != rightToLeft && d != arabicDigit

/-- Whether directions after the first, without marks at the end and last one first, make a label
from right to left. Its digits are all of one kind. -/
def endsRight : List Direction → Bool
  | [] => true
  | last :: middle =>
    last != neutral && (last :: middle).all (· != leftToRight) &&
      !((last :: middle).contains europeanDigit && (last :: middle).contains arabicDigit)

/-- Whether a label may stand in a right-to-left domain name. -/
def isClear (label : List Char) : Bool :=
  match label.map of with
  | [] => true
  | first :: rest =>
    let ending := rest.reverse.dropWhile (· == nonspacing)
    match first with
    | leftToRight => endsLeft ending
    | rightToLeft => endsRight ending
    | _ => false

/-- Whether labels may stand together in a domain name. -/
def areClear (labels : List (List Char)) : Bool :=
  !(labels.any (·.any isRight)) || labels.all isClear

end Direction

end Fleet.Url

/-
The composed normal form of a text. Texts that differ only in how their characters are composed
have one normal form: characters are taken apart into their parts, the marks after each base
character are put in the order of their classes, and what belongs together is composed again.
Syllables of Hangul are composed by rule.
-/
import Fleet.Text.Codes
import Fleet.Text.NormalTable
import Std.Data.HashMap

namespace Fleet.Text

/-! ## Classes -/

/-- The class of a mark; a character of class zero is a base for the marks after it. -/
def combiningClass (c : Char) : Nat :=
  if c.toNat < 0x300 then 0
  else
    match combiningRanges.find? fun r => r.1 ≤ c.toNat && c.toNat ≤ r.2.1 with
    | some r => r.2.2
    | none => 0

/-- A character with its class. -/
structure Classed where
  char : Char
  order : Nat
deriving DecidableEq, Repr

/-- A character with the class it has. -/
def Classed.of (c : Char) : Classed := ⟨c, combiningClass c⟩

/-! ## Taking apart -/

/-- The first syllable of Hangul and the number of syllables. -/
def firstSyllable : Nat := 0xAC00

/-- The parts of the syllable with a number: a first consonant, a vowel, and maybe a last one. -/
def syllableParts (n : Nat) : List Nat :=
  [0x1100 + n / 588, 0x1161 + n % 588 / 28] ++ if n % 28 = 0 then [] else [0x11A7 + n % 28]

/-- Adds a row of the tables to the parts that are known. -/
def addParts (known : Std.HashMap Nat (List Nat)) : List Nat → Std.HashMap Nat (List Nat)
  | code :: parts => known.insert code (parts.flatMap fun n => known.getD n [n])
  | [] => known

/-- The parts of each character in the tables, none of which has parts itself. -/
def knownParts : Std.HashMap Nat (List Nat) :=
  (codeRows compositeText ++ codeRows replacedText).foldl addParts ∅

/-- The parts of a character. -/
def parts (c : Char) : List Char :=
  if c.toNat < 0xC0 then [c]
  else if firstSyllable ≤ c.toNat && c.toNat < firstSyllable + 11172 then
    (syllableParts (c.toNat - firstSyllable)).map Char.ofNat
  else
    match knownParts[c.toNat]? with
    | some codes => codes.map Char.ofNat
    | none => [c]

/-! ## Order -/

/-- Puts a character in front of ordered ones; a mark goes behind those of a lower class. -/
def insertMark (c : Classed) : List Classed → List Classed
  | [] => [c]
  | d :: rest =>
    if 0 < d.order && d.order < c.order then d :: insertMark c rest else c :: d :: rest

/-- The characters with the marks after each base in the order of their classes. Marks of one
class stay as they are. -/
def orderMarks (cs : List Classed) : List Classed := cs.foldr insertMark []

/-! ## Composing -/

/-- The character that two others are the parts of, by the tables. -/
def knownComposites : Std.HashMap (Nat × Nat) Nat :=
  (codeRows compositeText).foldl
    (fun known row =>
      match row with
      | [code, first, second] => known.insert (first, second) code
      | _ => known)
    ∅

/-- The syllable of Hangul that two characters make: two letters, or a syllable without a last
consonant and that consonant. -/
def syllable? (first second : Nat) : Option Nat :=
  if 0x1100 ≤ first && first < 0x1113 && 0x1161 ≤ second && second < 0x1176 then
    some (firstSyllable + ((first - 0x1100) * 21 + (second - 0x1161)) * 28)
  else if firstSyllable ≤ first && first < firstSyllable + 11172 &&
      (first - firstSyllable) % 28 == 0 && 0x11A7 < second && second < 0x11C3 then
    some (first + (second - 0x11A7))
  else none

/-- The character that two others make. Nothing below the first combining mark joins what is in
front of it. -/
def composite? (first second : Char) : Option Char :=
  if second.toNat < 0x300 then none
  else
    ((syllable? first.toNat second.toNat).or
      knownComposites[(first.toNat, second.toNat)]?).map Char.ofNat

/-- Composes what follows a base. The marks kept since the base, last first, come between the
base and a mark of no higher class, which then is kept too. -/
def composeAfter (base : Char) (kept : List Classed) : List Classed → List Char
  | [] => base :: kept.reverse.map Classed.char
  | c :: rest =>
    let reaches :=
      match kept with
      | [] => true
      | last :: _ => last.order < c.order
    match if reaches then composite? base c.char else none with
    | some whole => composeAfter whole kept rest
    | none =>
      if c.order = 0 then base :: kept.reverse.map Classed.char ++ composeAfter c.char [] rest
      else composeAfter base (c :: kept) rest

/-- The ordered characters composed; marks before the first base stay as they are. -/
def composeAll : List Classed → List Char
  | [] => []
  | c :: rest => if c.order = 0 then composeAfter c.char [] rest else c.char :: composeAll rest

/-! ## Normal form -/

/-- The composed normal form of a text. Below the first combining mark every character is in
normal form. -/
def normalForm (cs : List Char) : List Char :=
  if cs.all (·.toNat < 0x300) then cs
  else composeAll (orderMarks ((cs.flatMap parts).map Classed.of))

end Fleet.Text

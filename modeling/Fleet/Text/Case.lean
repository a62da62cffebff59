/-
Full Unicode case conversion. Each character is mapped on its own, except that the capital
sigma becomes a final small sigma exactly where it ends a word: after a cased character and
not before one, in both directions across case-ignorable characters.
-/
import Fleet.Text.CaseTable

namespace Fleet.Text

/-! ## One character -/

/-- Whether `n` lies in one of the ranges. -/
def inRanges (ranges : List (Nat × Nat)) (n : Nat) : Bool :=
  ranges.any fun r => r.1 ≤ n && n ≤ r.2

/-- The character the first covering run maps `c` to, or `c` itself. -/
def shiftBy (runs : List CodeRun) (c : Char) : Char :=
  match runs.find? (·.covers c.toNat) with
  | some run => Char.ofNat ((c.toNat : Int) + run.shift).toNat
  | none => c

/-- The lower case of one character; only the dotted capital I has two characters. -/
def lowerChar (c : Char) : List Char :=
  if c.toNat == 0x130 then ['i', '\u0307'] else [shiftBy lowerRuns c]

/-- The upper case of one character, of up to three characters. -/
def upperChar (c : Char) : List Char :=
  match upperForms.lookup c.toNat with
  | some form => form.map Char.ofNat
  | none => [shiftBy upperRuns c]

/-- The characters with the property Cased. -/
def isCased (c : Char) : Bool := inRanges casedRanges c.toNat

/-- The characters with the property Case_Ignorable. -/
def isCaseIgnorable (c : Char) : Bool := inRanges caseIgnorableRanges c.toNat

/-! ## Whole texts -/

/-- Whether the first character that is not case-ignorable is cased. -/
def startsCased (cs : List Char) : Bool :=
  match cs.dropWhile isCaseIgnorable with
  | c :: _ => isCased c
  | [] => false

/-- The small sigma for a capital one between the text `before`, read backwards, and `after`. -/
def smallSigma (before after : List Char) : Char :=
  if startsCased before && !startsCased after then 'ς' else 'σ'

/-- The lower case of a text that follows the text `before`, read backwards. -/
def lowerAfter (before : List Char) : List Char → List Char
  | [] => []
  | c :: rest =>
    (if c == 'Σ' then [smallSigma before rest] else lowerChar c) ++ lowerAfter (c :: before) rest

/-- The lower case of a list of characters. -/
def lowerChars (cs : List Char) : List Char := lowerAfter [] cs

/-- The lower case of a text. -/
def lower (s : String) : String := String.ofList (lowerChars s.toList)

end Fleet.Text

/-
Labels of a domain name in ASCII. The characters outside ASCII are written behind the others as
their distances, in ascending order, in a variable-length notation with 36 digits whose
thresholds adapt to the distances seen before. Each loop follows its data: the distances shrink
while they are written, and every digit read is consumed.
-/
namespace Fleet.Url.Punycode

/-! ## Digits and thresholds -/

/-- The digit of a value below 36. -/
def digit (n : Nat) : Char := if n < 26 then Char.ofNat (97 + n) else Char.ofNat (22 + n)

/-- The value of a digit of either case. -/
def digitValue? (c : Char) : Option Nat :=
  if c.isLower then some (c.toNat - 97)
  else if c.isUpper then some (c.toNat - 65)
  else if c.isDigit then some (c.toNat - 22)
  else none

/-- The value below which the digit at weight `k` is the last one. -/
def threshold (bias k : Nat) : Nat := max 1 (min 26 (k - bias))

theorem threshold_pos (bias k : Nat) : 0 < threshold bias k := by
  unfold threshold; omega

/-- Scales a distance down and counts the weight that takes. -/
def scaleDown (delta k : Nat) : Nat :=
  if 455 < delta then scaleDown (delta / 35) (k + 36) else k + 36 * delta / (delta + 38)
termination_by delta
decreasing_by omega

/-- The bias after a distance; `count` characters are placed by then. -/
def adapt (delta count : Nat) (first : Bool) : Nat :=
  let halved := if first then delta / 700 else delta / 2
  scaleDown (halved + halved / count) 0

/-! ## Writing -/

/-- The digits of a distance. -/
def digits (bias k delta : Nat) : List Char :=
  let t := threshold bias k
  if delta < t then [digit delta]
  else digit (t + (delta - t) % (36 - t)) :: digits bias (k + 36) ((delta - t) / (36 - t))
termination_by delta
decreasing_by
  have h := threshold_pos bias k
  have hd := Nat.div_le_self (delta - threshold bias k) (36 - threshold bias k)
  omega

/-- What has been written: the digits, the next distance, the bias, and how many characters. -/
structure Writer where
  written : List Char
  delta : Nat
  bias : Nat
  count : Nat

/-- Passes a character of the label while those with the code point `n` are written. -/
def Writer.pass (basics n : Nat) (w : Writer) (c : Char) : Writer :=
  if c.toNat < n then { w with delta := w.delta + 1 }
  else if c.toNat = n then
    ⟨w.written ++ digits w.bias 36 w.delta, 0,
      adapt w.delta (w.count + 1) (w.count == basics), w.count + 1⟩
  else w

/-- Writes the code points of an ascending list, of which the last one written is below `n`. -/
def Writer.run (label : List Char) (basics : Nat) : List Nat → Nat → Writer → Writer
  | [], _, w => w
  | m :: rest, n, w =>
    let ready := { w with delta := w.delta + (m - n) * (w.count + 1) }
    let passed := label.foldl (Writer.pass basics m) ready
    Writer.run label basics rest (m + 1) { passed with delta := passed.delta + 1 }

/-- The distinct code points outside ASCII in ascending order. -/
def extended (label : List Char) : List Nat :=
  (((label.filter (128 ≤ ·.toNat)).map Char.toNat).mergeSort).eraseReps

/-- The ASCII form of a label. -/
def encode (label : List Char) : List Char :=
  let basic := label.filter (·.toNat < 128)
  let w := Writer.run label basic.length (extended label) 128 ⟨[], 0, 72, basic.length⟩
  basic ++ (if basic.isEmpty then [] else ['-']) ++ w.written

/-! ## Reading -/

/-- What has been read: the label so far, the last code point and place, and the number that is
being read with its start, weight and position. -/
structure Reader where
  label : List Char
  code : Nat
  place : Nat
  start : Nat
  bias : Nat
  weight : Nat
  k : Nat

/-- Places the character whose distance has been read. -/
def Reader.insert? (r : Reader) : Option Reader :=
  let count := r.label.length + 1
  let code := r.code + r.place / count
  let place := r.place % count
  if code.isValidChar then
    some ⟨r.label.take place ++ Char.ofNat code :: r.label.drop place, code, place + 1, place + 1,
      adapt (r.place - r.start) count (r.start == 0), 1, 36⟩
  else none

/-- Reads the digits of all distances. -/
def Reader.run (r : Reader) : List Char → Option (List Char)
  | [] => if r.k = 36 then some r.label else none
  | c :: cs =>
    match digitValue? c with
    | none => none
    | some d =>
      let t := threshold r.bias r.k
      let next := { r with place := r.place + d * r.weight }
      if d < t then
        match next.insert? with
        | some r => r.run cs
        | none => none
      else Reader.run { next with weight := r.weight * (36 - t), k := r.k + 36 } cs

/-- The label an ASCII form stands for: the characters before the last hyphen, with those placed
by the digits behind it. A hyphen with nothing before it separates nothing and is no digit. -/
def decode? (cs : List Char) : Option (List Char) :=
  let digits := (cs.reverse.takeWhile (· != '-')).reverse
  let basic := (cs.take (cs.length - digits.length)).dropLast
  if basic.isEmpty && digits.length < cs.length then none
  else Reader.run ⟨basic, 128, 0, 0, 72, 1, 36⟩ digits

end Fleet.Url.Punycode

/-
The scalars of JSON text: words, quoted texts and numbers. Each reader takes the characters not
yet read and gives back what it read with the characters that follow, or the stop it came to.
A `strict` reader also refuses what has no value (lone surrogates, numbers out of range); one
that is not strict checks the grammar alone.
-/
import Fleet.Json.Basic
import Fleet.Json.Fault
import Fleet.Number.Numeral

namespace Fleet.Json

/-! ## Words -/

/-- Reads the characters of a word. -/
def readWord : List Char → List Char → Except Stop (List Char)
  | [], cs => .ok cs
  | _ :: _, [] => .error ⟨.missingValue, [], 0⟩
  | e :: es, c :: cs => if e == c then readWord es cs else .error ⟨.expectedWord, c :: cs, 1⟩

theorem length_of_readWord {word cs rest : List Char} (h : readWord word cs = .ok rest) :
    rest.length ≤ cs.length := by
  induction word generalizing cs with
  | nil => simp_all [readWord]
  | cons e es ih =>
    cases cs with
    | nil => simp [readWord] at h
    | cons c cs =>
      unfold readWord at h
      split at h
      · have := ih h
        simp; omega
      · simp at h

/-! ## Quoted texts -/

/-- The value of a hexadecimal digit. -/
def hexValue? (c : Char) : Option Nat :=
  if c.isDigit then some (c.toNat - 48)
  else if 'a' ≤ c ∧ c ≤ 'f' then some (c.toNat - 87)
  else if 'A' ≤ c ∧ c ≤ 'F' then some (c.toNat - 55)
  else none

/-- The value of four hexadecimal digits. -/
def hexQuad? (a b c d : Char) : Option Nat := do
  return ((← hexValue? a) * 16 + (← hexValue? b)) * 256 + ((← hexValue? c) * 16 + (← hexValue? d))

/-- Reads the four bytes after an escaped `u`. -/
def readHexQuad (cs : List Char) : Except Stop (Nat × List Char) :=
  if (cs.take 4).foldl (fun n c => n + c.utf8Size) 0 < 4 then .error ⟨.unclosedText, [], 0⟩
  else
    match cs with
    | a :: b :: c :: d :: rest =>
      match hexQuad? a b c d with
      | some n => .ok (n, rest)
      | none => .error ⟨.invalidEscape, cs, 4⟩
    | _ => .error ⟨.invalidEscape, cs, 4⟩

/-- Reads the second half of a surrogate pair whose first half is `high`. -/
def readLowSurrogate (high : Nat) : List Char → Except Stop (Char × List Char)
  | [] | ['\\'] => .error ⟨.unclosedText, [], 0⟩
  | '\\' :: 'u' :: cs =>
    match readHexQuad cs with
    | .error stop => .error stop
    | .ok (low, rest) =>
      if 0xDC00 ≤ low ∧ low ≤ 0xDFFF then
        .ok (Char.ofNat (0x10000 + (high - 0xD800) * 0x400 + (low - 0xDC00)), rest)
      else .error ⟨.loneSurrogate, rest, 0⟩
  | '\\' :: cs => .error ⟨.cutSurrogatePair, cs, 1⟩
  | cs => .error ⟨.cutSurrogatePair, cs, 1⟩

/-- Reads the code point after an escaped `u`. -/
def readCodePoint (strict : Bool) (cs : List Char) : Except Stop (Char × List Char) :=
  match readHexQuad cs with
  | .error stop => .error stop
  | .ok (n, rest) =>
    if !strict then .ok (Char.ofNat n, rest)
    else if 0xDC00 ≤ n ∧ n ≤ 0xDFFF then .error ⟨.loneSurrogate, rest, 0⟩
    else if 0xD800 ≤ n ∧ n ≤ 0xDBFF then readLowSurrogate n rest
    else .ok (Char.ofNat n, rest)

/-- Reads what follows a backslash. -/
def readEscape (strict : Bool) : List Char → Except Stop (Char × List Char)
  | [] => .error ⟨.unclosedText, [], 0⟩
  | '"' :: cs => .ok ('"', cs)
  | '\\' :: cs => .ok ('\\', cs)
  | '/' :: cs => .ok ('/', cs)
  | 'b' :: cs => .ok ('\x08', cs)
  | 'f' :: cs => .ok ('\x0c', cs)
  | 'n' :: cs => .ok ('\n', cs)
  | 'r' :: cs => .ok ('\r', cs)
  | 't' :: cs => .ok ('\t', cs)
  | 'u' :: cs => readCodePoint strict cs
  | cs => .error ⟨.invalidEscape, cs, 1⟩

theorem length_of_readHexQuad {cs rest : List Char} {n : Nat}
    (h : readHexQuad cs = .ok (n, rest)) : rest.length < cs.length := by
  unfold readHexQuad at h
  split at h
  · simp at h
  · split at h
    · split at h
      · simp only [Except.ok.injEq, Prod.mk.injEq] at h
        simp [← h.2]; omega
      · simp at h
    · simp at h

theorem length_of_readLowSurrogate {high : Nat} {cs rest : List Char} {c : Char}
    (h : readLowSurrogate high cs = .ok (c, rest)) : rest.length < cs.length := by
  unfold readLowSurrogate at h
  split at h
  · simp at h
  · simp at h
  · split at h
    · simp at h
    · rename_i hq
      have := length_of_readHexQuad hq
      split at h
      · simp only [Except.ok.injEq, Prod.mk.injEq] at h
        simp [← h.2]; omega
      · simp at h
  · simp at h
  · simp at h

theorem length_of_readCodePoint {strict : Bool} {cs rest : List Char} {c : Char}
    (h : readCodePoint strict cs = .ok (c, rest)) : rest.length < cs.length := by
  unfold readCodePoint at h
  split at h
  · simp at h
  · rename_i hq
    have := length_of_readHexQuad hq
    split at h
    · simp only [Except.ok.injEq, Prod.mk.injEq] at h
      simpa [← h.2]
    · split at h
      · simp at h
      · split at h
        · have := length_of_readLowSurrogate h
          omega
        · simp only [Except.ok.injEq, Prod.mk.injEq] at h
          simpa [← h.2]

theorem length_of_readEscape {strict : Bool} {cs rest : List Char} {c : Char}
    (h : readEscape strict cs = .ok (c, rest)) : rest.length < cs.length := by
  unfold readEscape at h
  split at h
  case h_10 =>
    have := length_of_readCodePoint h
    simp; omega
  all_goals first
    | simp at h; done
    | (simp only [Except.ok.injEq, Prod.mk.injEq] at h; simp [← h.2])

/-- Reads a text up to its closing quote; `read` holds the characters read so far, last first. -/
def readText (strict : Bool) (read cs : List Char) : Except Stop (List Char × List Char) :=
  match cs with
  | [] => .error ⟨.unclosedText, [], 0⟩
  | c :: rest =>
    if c == '"' then .ok (read.reverse, rest)
    else if c == '\\' then
      match _escaped : readEscape strict rest with
      | .error stop => .error stop
      | .ok (d, tail) => readText strict (d :: read) tail
    else if c.toNat < 0x20 then .error ⟨.controlCharacter, c :: rest, 1⟩
    else readText strict (c :: read) rest
termination_by cs.length
decreasing_by
  · have := length_of_readEscape _escaped
    simp; omega
  · simp

theorem length_of_readText {strict : Bool} {read cs text rest : List Char}
    (h : readText strict read cs = .ok (text, rest)) : rest.length < cs.length := by
  induction hn : cs.length using Nat.strongRecOn generalizing read cs with
  | ind n ih =>
    subst hn
    unfold readText at h
    split at h
    · simp at h
    · split at h
      · simp only [Except.ok.injEq, Prod.mk.injEq] at h
        simp [h.2]
      · split at h
        · split at h
          · simp at h
          · rename_i he
            have := length_of_readEscape he
            have := ih _ (by simp; omega) h rfl
            simp; omega
        · split at h
          · simp at h
          · have := ih _ (by simp) h rfl
            simp; omega

/-! ## Numbers -/

/-- Reads at least one digit. -/
def readDigits (cs : List Char) : Except Stop (List Char × List Char) :=
  match cs with
  | [] => .error ⟨.missingValue, [], 0⟩
  | c :: _ => if c.isDigit then .ok (Numeral.spanDigits cs) else .error ⟨.invalidNumber, cs, 1⟩

/-- Reads the digits of a whole part, which is zero or starts with another digit. -/
def readWhole (cs : List Char) : Except Stop (List Char × List Char) :=
  match cs with
  | '0' :: d :: rest =>
    if d.isDigit then .error ⟨.invalidNumber, d :: rest, 1⟩ else .ok (['0'], d :: rest)
  | _ => readDigits cs

/-- Reads a point and digits, if a point follows. -/
def readFraction : List Char → Except Stop (Option (List Char) × List Char)
  | '.' :: cs =>
    match readDigits cs with
    | .error stop => .error stop
    | .ok (digits, rest) => .ok (some digits, rest)
  | cs => .ok (none, cs)

/-- Reads an exponent, if one follows: its sign and its digits. -/
def readExponent (cs : List Char) : Except Stop (Option (Bool × List Char) × List Char) :=
  match cs with
  | [] => .ok (none, [])
  | c :: rest =>
    if c == 'e' || c == 'E' then
      match readDigits (Numeral.sign rest).2 with
      | .error stop => .error stop
      | .ok (digits, tail) => .ok (some ((Numeral.sign rest).1, digits), tail)
    else .ok (none, c :: rest)

/-- The parts of a number as written. -/
structure Literal where
  negative : Bool
  whole : List Char
  fraction : Option (List Char)
  exponent : Option (Bool × List Char)

/-- Reads the parts of a number after its sign. -/
def readLiteral (negative : Bool) (cs : List Char) : Except Stop (Literal × List Char) :=
  match readWhole cs with
  | .error stop => .error stop
  | .ok (whole, afterWhole) =>
    match readFraction afterWhole with
    | .error stop => .error stop
    | .ok (fraction, afterFraction) =>
      match readExponent afterFraction with
      | .error stop => .error stop
      | .ok (exponent, rest) => .ok (⟨negative, whole, fraction, exponent⟩, rest)

/-- Takes digits into `n` as long as it fits 64 bits, and gives back the digits left. -/
def takeDigits (n : Nat) : List Char → Nat × List Char
  | [] => (n, [])
  | c :: cs =>
    let next := 10 * n + (c.toNat - 48)
    if next < UInt64.size then takeDigits next cs else (n, c :: cs)

/-- The value of the digits of an exponent, or the digits after the one at which it outgrows 31
bits. -/
def exponentDigits (n : Nat) : List Char → Except (List Char) Nat
  | [] => .ok n
  | c :: cs =>
    let next := 10 * n + (c.toNat - 48)
    if next < 0x80000000 then exponentDigits next cs else .error cs

/-- The number nearest to a power of ten. -/
def powerOfTen? (exponent : Nat) : Option Binary64 := Binary64.ofInt? (Nat.pow 10 exponent)

/-- The number divided `steps` times by `10 ^ 308`, rounded each time. -/
def scaleDown? (x : Binary64) : Nat → Option Binary64
  | 0 => some x
  | steps + 1 =>
    if x.isZero then some x
    else ((powerOfTen? 308).bind x.div?).bind (scaleDown? · steps)

/-- The number times a power of ten: one rounded operation per power up to `10 ^ 308`; `none`
when the result would not be finite. -/
def scaleByTen? (x : Binary64) (e : Int) : Option Binary64 :=
  if x.isZero then some x
  else if e > 308 then none
  else if 0 ≤ e then (powerOfTen? e.toNat).bind x.mul?
  else
    let places := (-e).toNat
    let steps := (places - 1) / 308
    (scaleDown? x steps).bind fun y => (powerOfTen? (places - 308 * steps)).bind y.div?

/-- The binary value of 64 bits of digits times a power of ten. -/
def binary? (negative : Bool) (digits : Nat) (e : Int) : Option Number :=
  ((Binary64.ofInt? digits).bind (scaleByTen? · e)).map fun x =>
    .binary (if negative then x.neg else x)

/-- The value of an integer of at most 64 bits: kept exactly when its sign allows, else rounded. -/
def integer? (negative : Bool) (n : Nat) : Option Number :=
  if !negative then some (.integer n)
  else if n = 0 ∨ 0x8000000000000000 < n then binary? true n 0
  else some (.integer (-n))

/-- The value of a literal before the characters `rest`. The digits beyond 64 bits of the
significand count only by their place. -/
def Literal.value (literal : Literal) (rest : List Char) : Except Stop Number :=
  let (n, dropped) := takeDigits 0 literal.whole
  let (n, places) :=
    match literal.fraction with
    | some digits =>
      let (m, unused) := takeDigits n digits
      (m, (dropped.length : Int) - (digits.length - unused.length))
    | none => (n, (dropped.length : Int))
  let outOfRange (rest : List Char) : Except Stop Number := .error ⟨.numberOutOfRange, rest, 0⟩
  let finish (value : Option Number) : Except Stop Number :=
    match value with
    | some n => .ok n
    | none => outOfRange rest
  match literal.exponent with
  | some (negativeExponent, digits) =>
    match exponentDigits 0 digits with
    | .ok e => finish (binary? literal.negative n (if negativeExponent then places - e else places + e))
    | .error left =>
      if n ≠ 0 ∧ !negativeExponent then outOfRange (left ++ rest)
      else finish (binary? literal.negative 0 0)
  | none =>
    if literal.fraction.isNone ∧ dropped.isEmpty then finish (integer? literal.negative n)
    else finish (binary? literal.negative n places)

/-- Reads a number after its sign. -/
def readNumber (strict negative : Bool) (cs : List Char) : Except Stop (Number × List Char) :=
  match readLiteral negative cs with
  | .error stop => .error stop
  | .ok (literal, rest) =>
    if strict then
      match literal.value rest with
      | .error stop => .error stop
      | .ok n => .ok (n, rest)
    else .ok (.integer 0, rest)

theorem length_of_readDigits {cs digits rest : List Char}
    (h : readDigits cs = .ok (digits, rest)) : rest.length < cs.length := by
  unfold readDigits at h
  split at h
  · simp at h
  · rename_i c cs
    split at h
    · rename_i hc
      simp only [Except.ok.injEq, Numeral.spanDigits, Prod.mk.injEq] at h
      have := (List.dropWhile_suffix (l := cs) Char.isDigit).length_le
      simp only [List.dropWhile_cons, hc, if_true] at h
      simp [← h.2]; omega
    · simp at h

theorem length_of_readWhole {cs digits rest : List Char}
    (h : readWhole cs = .ok (digits, rest)) : rest.length < cs.length := by
  unfold readWhole at h
  split at h
  · split at h
    · simp at h
    · simp only [Except.ok.injEq, Prod.mk.injEq] at h
      simp [← h.2]
  · exact length_of_readDigits h

theorem length_of_readFraction {cs rest : List Char} {digits : Option (List Char)}
    (h : readFraction cs = .ok (digits, rest)) : rest.length ≤ cs.length := by
  unfold readFraction at h
  split at h
  · split at h
    · simp at h
    · rename_i hd
      have := length_of_readDigits hd
      simp only [Except.ok.injEq, Prod.mk.injEq] at h
      simp [← h.2]; omega
  · simp only [Except.ok.injEq, Prod.mk.injEq] at h
    simp [h.2]

theorem length_sign_snd_le (cs : List Char) : (Numeral.sign cs).2.length ≤ cs.length := by
  unfold Numeral.sign
  split <;> simp

theorem length_of_readExponent {cs rest : List Char} {e : Option (Bool × List Char)}
    (h : readExponent cs = .ok (e, rest)) : rest.length ≤ cs.length := by
  unfold readExponent at h
  split at h
  · simp_all
  · rename_i c cs
    split at h
    · split at h
      · simp at h
      · rename_i hd
        have := length_of_readDigits hd
        have := length_sign_snd_le cs
        simp only [Except.ok.injEq, Prod.mk.injEq] at h
        simp [← h.2]; omega
    · simp only [Except.ok.injEq, Prod.mk.injEq] at h
      simp [← h.2]

theorem length_of_readNumber {strict negative : Bool} {cs rest : List Char} {n : Number}
    (h : readNumber strict negative cs = .ok (n, rest)) : rest.length < cs.length := by
  unfold readNumber readLiteral at h
  split at h
  · simp at h
  · rename_i hl
    split at hl
    · simp at hl
    · rename_i hw
      have := length_of_readWhole hw
      split at hl
      · simp at hl
      · rename_i hf
        have := length_of_readFraction hf
        split at hl
        · simp at hl
        · rename_i he
          have := length_of_readExponent he
          simp only [Except.ok.injEq, Prod.mk.injEq] at hl
          split at h
          · split at h
            · simp at h
            · simp only [Except.ok.injEq, Prod.mk.injEq] at h
              rw [← h.2, ← hl.2]; omega
          · simp only [Except.ok.injEq, Prod.mk.injEq] at h
            rw [← h.2, ← hl.2]; omega

end Fleet.Json

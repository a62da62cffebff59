/-
Finite binary64 numbers as exact values. A number is its sign and its magnitude bits; the
magnitude bits order like the numbers, so a carry out of the mantissa is ordinary addition and
overflow is a comparison. Every operation computes a ratio of natural numbers and rounds it
once, to the nearest number and to the even one on a tie.
-/
namespace Fleet

/-- The magnitude bits of the first value too large to be finite. -/
def Binary64.infinityBits : Nat := 0x7FF * Nat.pow 2 52

/-- A finite binary64 number: its sign, and the bits below the sign as a natural number. -/
structure Binary64 where
  negative : Bool
  magnitude : Nat
  finite : magnitude < Binary64.infinityBits
deriving DecidableEq

/-- What a numeral can denote: a finite number, an infinity, or no number. -/
inductive Real64 where
  | finite (x : Binary64)
  | infinite (negative : Bool)
  | notANumber
deriving DecidableEq

namespace Binary64

/-! ## Value -/

/-- Zero of either sign. -/
def zero (negative : Bool) : Binary64 := ⟨negative, 0, by decide⟩

instance : Inhabited Binary64 := ⟨zero false⟩

/-- Whether the number is zero, of either sign. -/
def isZero (x : Binary64) : Bool := x.magnitude == 0

/-- The exponent field, counted from the subnormal range. -/
def scale (x : Binary64) : Nat := x.magnitude / Nat.pow 2 52 - 1

/-- The mantissa: the magnitude of the number is `mantissa · 2 ^ scale / 2 ^ 1074`. -/
def mantissa (x : Binary64) : Nat :=
  if x.magnitude < Nat.pow 2 52 then x.magnitude else Nat.pow 2 52 + x.magnitude % Nat.pow 2 52

/-- The number with the other sign. -/
def neg (x : Binary64) : Binary64 := { x with negative := !x.negative }

/-- The number with the given magnitude bits, unless they are too large. -/
def ofMagnitude? (negative : Bool) (magnitude : Nat) : Option Binary64 :=
  if h : magnitude < infinityBits then some ⟨negative, magnitude, h⟩ else none

/-! ## Rounding -/

/-- The natural number nearest to `num / den`, the even one on a tie. -/
def roundDiv (num den : Nat) : Nat :=
  let quotient := num / den
  let twice := 2 * (num % den)
  if twice > den || (twice == den && quotient % 2 == 1) then quotient + 1 else quotient

/-- The largest `e` with `2 ^ e ≤ num / den`, for positive `num` and `den`. -/
def floorLog2 (num den : Nat) : Int :=
  let e : Int := (num.log2 : Int) - den.log2
  let reached :=
    if 0 ≤ e then den * Nat.pow 2 e.toNat ≤ num else den ≤ num * Nat.pow 2 (-e).toNat
  if reached then e else e - 1

/-- The number nearest to `num / den` with the given sign; `none` when it would not be finite. -/
def ofRatio? (negative : Bool) (num den : Nat) : Option Binary64 :=
  if num == 0 then some (zero negative)
  else
    let scale := (floorLog2 num den + 1022).toNat
    ofMagnitude? negative
      (scale * Nat.pow 2 52 + roundDiv (num * Nat.pow 2 1074) (den * Nat.pow 2 scale))

/-- The number nearest to an integer; `none` when it would not be finite. -/
def ofInt? (n : Int) : Option Binary64 := ofRatio? (n < 0) n.natAbs 1

/-! ## Arithmetic -/

/-- The rounded product; `none` when it would not be finite. -/
def mul? (x y : Binary64) : Option Binary64 :=
  ofRatio? (x.negative != y.negative)
    (x.mantissa * y.mantissa * Nat.pow 2 (x.scale + y.scale)) (Nat.pow 2 2148)

/-- The rounded quotient; `none` when `y` is zero or the quotient would not be finite. -/
def div? (x y : Binary64) : Option Binary64 :=
  if y.isZero then none
  else
    ofRatio? (x.negative != y.negative)
      (x.mantissa * Nat.pow 2 x.scale) (y.mantissa * Nat.pow 2 y.scale)

/-- The integer nearest to the number, the one further from zero on a tie. -/
def round (x : Binary64) : Int :=
  let num := x.mantissa * Nat.pow 2 x.scale
  let den := Nat.pow 2 1074
  let nearest := (2 * num + den) / (2 * den)
  if x.negative then -(nearest : Int) else nearest

/-! ## Decimal values -/

/-- The number of decimal digits of `n`. -/
def digitCount (n : Nat) : Nat := (Nat.toDigits 10 n).length

/-- The number nearest to `digits · 10 ^ exponent`; `none` when it would not be finite. Values
beyond either end of the range are settled without forming the power. -/
def ofDecimal? (negative : Bool) (digits : Nat) (exponent : Int) : Option Binary64 :=
  if digits == 0 then some (zero negative)
  else
    let leading := (digitCount digits : Int) + exponent
    if leading > 310 then none
    else if leading < -330 then some (zero negative)
    else if 0 ≤ exponent then ofRatio? negative (digits * Nat.pow 10 exponent.toNat) 1
    else ofRatio? negative digits (Nat.pow 10 (-exponent).toNat)

end Binary64

end Fleet

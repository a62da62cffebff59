/-
The shortest decimal that reads back as a given number. Every decimal strictly between the
midpoints to the two neighbouring numbers reads back, and the midpoints do when the mantissa is
even. Grids of one digit, two digits and so on are tried in turn: on the first grid with a point
in that interval, the point nearest to the value is taken.
-/
import Fleet.Number.Binary64

namespace Fleet

/-- The decimal `digits · 10 ^ exponent`. -/
structure Decimal where
  digits : Nat
  exponent : Int
deriving DecidableEq, Repr

namespace Decimal

/-- The same value without zeros at the end of the digits. -/
def stripZeros (d : Decimal) : Decimal :=
  if h : d.digits ≠ 0 ∧ d.digits % 10 = 0 then
    stripZeros ⟨d.digits / 10, d.exponent + 1⟩
  else d
termination_by d.digits
decreasing_by omega

end Decimal

namespace Binary64

/-! ## The interval of decimals that read back -/

/-- The decimals that read back as one number: those between `low / unit` and `high / unit`,
around `value / unit`, the two ends included when `closed`. -/
structure ReadBack where
  low : Nat
  value : Nat
  high : Nat
  unit : Nat
  closed : Bool

/-- The decimals that read back as the magnitude of `x`. Below a power of two the neighbour is
half as far away as above it. -/
def readBack (x : Binary64) : ReadBack :=
  let m := 4 * x.mantissa
  let below := if x.mantissa == Nat.pow 2 52 && x.scale != 0 then 1 else 2
  let spread := Nat.pow 2 x.scale
  ⟨(m - below) * spread, m * spread, (m + 2) * spread, Nat.pow 2 1076, x.mantissa % 2 == 0⟩

/-- Whether the decimal `n · grid / step` reads back. -/
def ReadBack.holds (r : ReadBack) (n grid step : Nat) : Bool :=
  let point := n * grid * r.unit
  if r.closed then r.low * step ≤ point && point ≤ r.high * step
  else r.low * step < point && point < r.high * step

/-- The point of the grid `10 ^ exponent` that is nearest to the value among those of its two
neighbours on the grid that read back; the even one on a tie. -/
def ReadBack.onGrid (r : ReadBack) (exponent : Int) : Option Nat :=
  let grid := Nat.pow 10 exponent.toNat
  let step := Nat.pow 10 (-exponent).toNat
  let num := r.value * step
  let den := r.unit * grid
  let n := num / den
  let twice := 2 * (num % den)
  match r.holds n grid step, r.holds (n + 1) grid step with
  | true, true => some (if twice < den || (twice == den && n % 2 == 0) then n else n + 1)
  | true, false => some n
  | false, true => some (n + 1)
  | false, false => none

/-! ## The search -/

/-- The largest `e` with `10 ^ e ≤ num / den`, for positive `num` and `den`. -/
def floorLog10 (num den : Nat) : Int :=
  let e : Int := (digitCount num : Int) - digitCount den
  let reached :=
    if 0 ≤ e then den * Nat.pow 10 e.toNat ≤ num else den ≤ num * Nat.pow 10 (-e).toNat
  if reached then e else e - 1

/-- The first hit on the `fuel` grids from `10 ^ exponent` downwards. -/
def ReadBack.search (r : ReadBack) (exponent : Int) : Nat → Option Decimal
  | 0 => none
  | fuel + 1 =>
    match r.onGrid exponent with
    | some n => some ⟨n, exponent⟩
    | none => r.search (exponent - 1) fuel

/-- The shortest decimal that reads back as the magnitude of `x`, without zeros at its end.
Seventeen digits always suffice. -/
def shortest (x : Binary64) : Decimal :=
  if x.isZero then ⟨0, 0⟩
  else
    let r := x.readBack
    ((r.search (floorLog10 r.value r.unit) 17).getD ⟨0, 0⟩).stripZeros

end Binary64

end Fleet

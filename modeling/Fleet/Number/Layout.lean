/-
The text of a number: its shortest decimal, written positionally or in scientific notation as
a `Layout` decides. The digits never depend on the layout.
-/
import Fleet.Number.Shortest

namespace Fleet

/-- How the digits of a number are laid out. -/
structure Layout where
  /-- The leading exponents written positionally, from the first up to below the second; all of
  them when absent. -/
  positional : Option (Int × Int)
  /-- Whether a positional text always has a fraction digit. -/
  keepFraction : Bool

namespace Layout

/-- Whether a number whose leading digit stands at `10 ^ exponent` is written positionally. -/
def isPositional (layout : Layout) (exponent : Int) : Bool :=
  match layout.positional with
  | some (low, high) => low ≤ exponent && exponent < high
  | none => true

/-- The digits with the point where `exponent` puts it: `exponent` counts the places the last
digit stands left of the point. -/
def positionalText (layout : Layout) (digits : List Char) (exponent : Int) : List Char :=
  if 0 ≤ exponent then
    digits ++ List.replicate exponent.toNat '0' ++ (if layout.keepFraction then ['.', '0'] else [])
  else
    let places := (-exponent).toNat
    let padded := List.replicate (places + 1 - digits.length) '0' ++ digits
    padded.take (padded.length - places) ++ '.' :: padded.drop (padded.length - places)

/-- The digits with a point after the first and the leading exponent behind them. -/
def scientificText (digits : List Char) (leading : Int) : List Char :=
  digits.take 1 ++ (if digits.length ≤ 1 then [] else '.' :: digits.drop 1) ++
    ['e', if leading < 0 then '-' else '+'] ++ Nat.toDigits 10 leading.natAbs

/-- The text of a decimal. -/
def decimalText (layout : Layout) (d : Decimal) : List Char :=
  let digits := Nat.toDigits 10 d.digits
  let leading := d.exponent + digits.length - 1
  if layout.isPositional leading then layout.positionalText digits d.exponent
  else scientificText digits leading

/-- The text of a number. -/
def text (layout : Layout) (x : Binary64) : String :=
  String.ofList ((if x.negative then ['-'] else []) ++ layout.decimalText x.shortest)

end Layout

/-- Every exponent positionally, and no point in a whole number. -/
def Layout.plain : Layout := ⟨none, false⟩

end Fleet

/-
Tables written as text: rows of code points in hexadecimal digits, with blanks between the code
points and commas between the rows. No code point of a row is lost or moved.
-/
import Fleet.Text.Blank
import Fleet.Text.Split

namespace Fleet.Text

/-- The number that digits spell in hexadecimal, with capital letters for the digits above nine.
-/
def hexNumber (digits : List Char) : Nat :=
  digits.foldl (fun n c => 16 * n + if c.isDigit then c.toNat - 48 else c.toNat - 55) 0

/-- The rows of a table written as text. -/
def codeRows (text : String) : List (List Nat) :=
  (splitBy (· == ',') text.toList).map fun row => (wordsBy isBlank row).map hexNumber

end Fleet.Text

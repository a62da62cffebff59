/-
Reading a decimal numeral: a sign, digits with a point anywhere among them, and an exponent, or
one of the words for infinity and for no number. The value is rounded once.
-/
import Fleet.Number.Binary64

namespace Fleet.Numeral

/-- The value of a list of decimal digits. -/
def digitsValue (cs : List Char) : Nat := cs.foldl (fun n c => 10 * n + (c.toNat - 48)) 0

/-- The longest leading run of decimal digits, and what follows it. -/
def spanDigits (cs : List Char) : List Char × List Char :=
  (cs.takeWhile Char.isDigit, cs.dropWhile Char.isDigit)

/-- A sign, if the text starts with one. -/
def sign : List Char → Bool × List Char
  | '-' :: cs => (true, cs)
  | '+' :: cs => (false, cs)
  | cs => (false, cs)

/-- The exponent that ends a numeral: none, or a letter, a sign and at least one digit. -/
def exponent? : List Char → Option Int
  | [] => some 0
  | c :: cs =>
    if c == 'e' || c == 'E' then
      match sign cs with
      | (negative, digits) =>
        if digits.isEmpty || !digits.all Char.isDigit then none
        else some (if negative then -(digitsValue digits : Int) else digitsValue digits)
    else none

/-- The words for the values that are no finite number. -/
def word? (negative : Bool) (cs : List Char) : Option Real64 :=
  let word := String.ofList (cs.map Char.toLower)
  if word == "inf" || word == "infinity" then some (.infinite negative)
  else if word == "nan" then some .notANumber
  else none

/-- The value of an unsigned decimal. -/
def decimal? (negative : Bool) (cs : List Char) : Option Real64 :=
  match spanDigits cs with
  | (whole, rest) =>
    match (match rest with
      | '.' :: rest => spanDigits rest
      | rest => ([], rest)) with
    | (fraction, rest) =>
      if whole.isEmpty && fraction.isEmpty then none
      else
        (exponent? rest).map fun e =>
          match Binary64.ofDecimal? negative (digitsValue (whole ++ fraction))
              (e - fraction.length) with
          | some x => .finite x
          | none => .infinite negative

/-- The value of a numeral; blanks are not part of one. -/
def read? (s : String) : Option Real64 :=
  match sign s.toList with
  | (negative, cs) =>
    match word? negative cs with
    | some value => some value
    | none => decimal? negative cs

/-- The value of a decimal integer with an optional sign. -/
def integer? (s : String) : Option Int :=
  match sign s.toList with
  | (negative, digits) =>
    if digits.isEmpty || !digits.all Char.isDigit then none
    else some (if negative then -(digitsValue digits : Int) else digitsValue digits)

end Fleet.Numeral

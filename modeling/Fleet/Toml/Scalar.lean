/-
The scalars of TOML: quoted texts of one or several lines, with or without escapes, and the bare
words for truth values, numbers, dates and times.
-/
import Fleet.Settings.Setting
import Fleet.Text.Split

namespace Fleet.Toml

/-- What a reader gives: a value and the characters behind it, or nothing for a bad text. -/
abbrev Step (α : Type) := Option (α × List Char)

/-! ## Quoted texts -/

/-- Whether a character may stand in a text or a comment; line breaks are handled apart. -/
def isPlain (c : Char) : Bool := c == '\t' || (0x20 ≤ c.toNat && c.toNat != 0x7F)

/-- A character of blank space within a line. -/
def isSpace (c : Char) : Bool := c == ' ' || c == '\t'

/-- The value of a hex digit. -/
def hexValue? (c : Char) : Option Nat :=
  if c.isDigit then some (c.toNat - 48)
  else if 'a' ≤ c && c ≤ 'f' then some (c.toNat - 87)
  else if 'A' ≤ c && c ≤ 'F' then some (c.toNat - 55)
  else none

/-- The character with the code point that the first `count` characters spell. -/
def codePoint? (count : Nat) (cs : List Char) : Step Char :=
  if cs.length < count then none
  else
    match (cs.take count).foldlM (fun n c => (hexValue? c).map (16 * n + ·)) 0 with
    | some n => if n.isValidChar then some (Char.ofNat n, cs.drop count) else none
    | none => none

/-- The character an escape stands for, after its backslash. -/
def escape? : List Char → Step Char
  | 'b' :: cs => some ('\x08', cs)
  | 't' :: cs => some ('\t', cs)
  | 'n' :: cs => some ('\n', cs)
  | 'f' :: cs => some ('\x0c', cs)
  | 'r' :: cs => some ('\r', cs)
  | 'e' :: cs => some ('\x1b', cs)
  | '"' :: cs => some ('"', cs)
  | '\\' :: cs => some ('\\', cs)
  | 'x' :: cs => codePoint? 2 cs
  | 'u' :: cs => codePoint? 4 cs
  | 'U' :: cs => codePoint? 8 cs
  | _ => none

/-- What follows a line break, if the text begins with one. -/
def lineBreak? : List Char → Option (List Char)
  | '\n' :: cs => some cs
  | '\r' :: '\n' :: cs => some cs
  | _ => none

/-- The text without blank space and line breaks at its start. -/
def skipBlank : List Char → List Char
  | '\r' :: '\n' :: cs => skipBlank cs
  | c :: cs => if isSpace c || c == '\n' then skipBlank cs else c :: cs
  | [] => []

/-- What follows a backslash at the end of a line: everything up to the next visible character.
-/
def joinLines? (cs : List Char) : Option (List Char) :=
  (lineBreak? (cs.dropWhile isSpace)).map skipBlank

/-- Reads a text of one line after its opening quote. -/
def oneLine? (quote : Char) : Nat → List Char → List Char → Step String
  | 0, _, _ => none
  | _, _, [] => none
  | fuel + 1, read, c :: cs =>
    if c == quote then some (String.ofList read.reverse, cs)
    else if c == '\\' && quote == '"' then
      match escape? cs with
      | some (c, rest) => oneLine? quote fuel (c :: read) rest
      | none => none
    else if isPlain c then oneLine? quote fuel (c :: read) cs
    else none

/-- The quotes that end a text of several lines: three, of which up to two more before them
belong to the text. -/
def closing? (quote : Char) (cs : List Char) : Step (List Char) :=
  let count := (cs.takeWhile (· == quote)).length
  if count < 3 then none
  else some (List.replicate (min count 5 - 3) quote, cs.drop (min count 5))

/-- A line break at the start of a text, as it is written, and what follows it. -/
def writtenBreak? (cs : List Char) : Step (List Char) :=
  (lineBreak? cs).map fun rest => (cs.take (cs.length - rest.length), rest)

/-- Reads a text of several lines after its opening quotes. -/
def manyLines? (quote : Char) : Nat → List Char → List Char → Step String
  | 0, _, _ => none
  | _, _, [] => none
  | fuel + 1, read, c :: cs =>
    match closing? quote (c :: cs) with
    | some (extra, rest) => some (String.ofList (read.reverse ++ extra), rest)
    | none =>
      match writtenBreak? (c :: cs) with
      | some (written, rest) => manyLines? quote fuel (written.reverse ++ read) rest
      | none =>
        if c == '\\' && quote == '"' then
          match joinLines? cs with
          | some rest => manyLines? quote fuel read rest
          | none =>
            match escape? cs with
            | some (c, rest) => manyLines? quote fuel (c :: read) rest
            | none => none
        else if isPlain c then manyLines? quote fuel (c :: read) cs
        else none

/-- Reads a quoted text of either kind and length. A line break right after three quotes does
not belong to the text. -/
def quoted? (cs : List Char) : Step String :=
  match cs with
  | a :: b :: c :: rest =>
    if (a == '"' || a == '\'') && b == a && c == a then
      manyLines? a (rest.length + 1) [] ((lineBreak? rest).getD rest)
    else if a == '"' || a == '\'' then oneLine? a (cs.length + 1) [] (b :: c :: rest)
    else none
  | a :: rest =>
    if a == '"' || a == '\'' then oneLine? a (cs.length + 1) [] rest else none
  | [] => none

/-! ## Numbers -/

/-- The digits of a number without the underscores between them. -/
def digits? (isDigit : Char → Bool) (cs : List Char) : Option (List Char) :=
  let groups := Text.splitBy (· == '_') cs
  if groups.all fun group => !group.isEmpty && group.all isDigit then some groups.flatten
  else none

/-- Whether decimal digits have no leading zero. -/
def isDecimal : List Char → Bool
  | '0' :: rest => rest.isEmpty
  | _ => true

/-- The integer in a radix. -/
def radix? (radix : Nat) (cs : List Char) : Option Int := do
  let digits ← digits? (fun c => (hexValue? c).any (· < radix)) cs
  digits.foldlM (fun n c => (hexValue? c).map fun d => n * radix + (d : Int)) 0

/-- The decimal integer without a leading zero. -/
def decimal? (cs : List Char) : Option Int := do
  let digits ← digits? Char.isDigit cs
  if isDecimal digits then some (Numeral.digitsValue digits) else none

/-- The integer a word stands for. -/
def integer? : List Char → Option Int
  | '0' :: 'x' :: cs => radix? 16 cs
  | '0' :: 'o' :: cs => radix? 8 cs
  | '0' :: 'b' :: cs => radix? 2 cs
  | '-' :: cs => (decimal? cs).map (- ·)
  | '+' :: cs => decimal? cs
  | cs => decimal? cs

/-- Whether the exponent that ends a number is well formed. -/
def isExponent : List Char → Bool
  | [] => true
  | c :: cs =>
    (c == 'e' || c == 'E') && (digits? Char.isDigit (Numeral.sign cs).2).isSome

/-- Whether an unsigned decimal with a fraction or an exponent is well formed. -/
def isFraction (cs : List Char) : Bool :=
  let isInner := fun c => Char.isDigit c || c == '_'
  let whole := cs.takeWhile isInner
  let rest := cs.dropWhile isInner
  (digits? Char.isDigit whole).any isDecimal &&
    match rest with
    | '.' :: rest =>
      (digits? Char.isDigit (rest.takeWhile isInner)).isSome &&
        isExponent (rest.dropWhile isInner)
    | rest => !rest.isEmpty && isExponent rest

/-- The number with a fraction that a word stands for. -/
def real? (cs : List Char) : Option Real64 :=
  let (negative, unsigned) := Numeral.sign cs
  if unsigned == "inf".toList then some (.infinite negative)
  else if unsigned == "nan".toList then some .notANumber
  else if isFraction unsigned then
    match Numeral.read? (String.ofList (cs.filter (· != '_'))) with
    | some (.finite x) => some (.finite x)
    | _ => none
  else none

/-! ## Dates and times -/

/-- The number that exactly so many digits spell. -/
def fixedNumber? (count : Nat) (cs : List Char) : Option Nat :=
  if cs.length == count && cs.all Char.isDigit then some (Numeral.digitsValue cs) else none

/-- The number of days of a month. -/
def daysIn (year month : Nat) : Nat :=
  if month == 2 then
    if year % 4 == 0 && (year % 100 != 0 || year % 400 == 0) then 29 else 28
  else if [4, 6, 9, 11].contains month then 30
  else 31

/-- Whether a word is a date. -/
def isDate (cs : List Char) : Bool :=
  match Text.splitBy (· == '-') cs with
  | [y, m, d] =>
    match fixedNumber? 4 y, fixedNumber? 2 m, fixedNumber? 2 d with
    | some year, some month, some day =>
      1 ≤ month && month ≤ 12 && 1 ≤ day && day ≤ daysIn year month
    | _, _, _ => false
  | _ => false

/-- Whether a word is hours and minutes. -/
def isClock (hours minutes : List Char) : Bool :=
  (fixedNumber? 2 hours).any (· ≤ 23) && (fixedNumber? 2 minutes).any (· ≤ 59)

/-- Seconds as they are shown: a fraction has one to nine digits, and a zero at its end only if
that is all of it. -/
def secondsText? (cs : List Char) : Option (List Char) :=
  match Text.splitBy (· == '.') cs with
  | [whole] => if (fixedNumber? 2 whole).any (· ≤ 60) then some whole else none
  | [whole, fraction] =>
    if (fixedNumber? 2 whole).any (· ≤ 60) && !fraction.isEmpty && fraction.all Char.isDigit then
      let kept := ((fraction.take 9).reverse.dropWhile (· == '0')).reverse
      some (whole ++ '.' :: if kept.isEmpty then ['0'] else kept)
    else none
  | _ => none

/-- A time as it is shown. -/
def timeText? (cs : List Char) : Option (List Char) :=
  match Text.splitBy (· == ':') cs with
  | [h, m] => if isClock h m then some cs else none
  | [h, m, s] =>
    if isClock h m then (secondsText? s).map fun s => h ++ ':' :: m ++ ':' :: s else none
  | _ => none

/-- Whether a word is a distance from universal time. -/
def isOffset : List Char → Bool
  | c :: cs =>
    (c == '+' || c == '-') &&
      match Text.splitBy (· == ':') cs with
      | [h, m] => isClock h m
      | _ => false
  | [] => false

/-- A distance from universal time as it is shown: none at all has a plus sign. -/
def offsetText (cs : List Char) : List Char :=
  if cs == "-00:00".toList then "+00:00".toList else cs

/-- A time with the offset that may follow it, as they are shown. -/
def offsetTimeText? (cs : List Char) : Option (List Char) :=
  let isTime := fun c => Char.isDigit c || c == ':' || c == '.'
  match timeText? (cs.takeWhile isTime), cs.dropWhile isTime with
  | some time, [] => some time
  | some time, ['Z'] | some time, ['z'] => some (time ++ ['Z'])
  | some time, offset => if isOffset offset then some (time ++ offsetText offset) else none
  | none, _ => none

/-- A date, a time, or both, as they are shown. -/
def dateText? (cs : List Char) : Option (List Char) :=
  if isDate cs then some cs
  else if isDate (cs.take 10) then
    match cs.drop 10 with
    | c :: rest =>
      if c == 'T' || c == 't' || c == ' ' then
        (offsetTimeText? rest).map fun time => cs.take 10 ++ 'T' :: time
      else none
    | [] => none
  else timeText? cs

/-! ## Bare words -/

/-- What ends a bare word. -/
def isWordEnd (c : Char) : Bool :=
  isSpace c || c == '\n' || c == '\r' || c == ',' || c == ']' || c == '\x7d' || c == '#'

/-- A bare word; a blank may stand between a date and a time. -/
def word (cs : List Char) : List Char × List Char :=
  let first := cs.takeWhile (!isWordEnd ·)
  match cs.dropWhile (!isWordEnd ·) with
  | ' ' :: d :: rest =>
    if isDate first && d.isDigit then
      (first ++ ' ' :: (d :: rest).takeWhile (!isWordEnd ·), (d :: rest).dropWhile (!isWordEnd ·))
    else (first, ' ' :: d :: rest)
  | rest => (first, rest)

/-- The setting a bare word stands for. -/
def wordSetting? (cs : List Char) : Option Setting :=
  if cs == "true".toList then some (.truth true)
  else if cs == "false".toList then some (.truth false)
  else
    match integer? cs with
    | some n => if Setting.isSigned64 n then some (.integer n) else none
    | none =>
      match real? cs with
      | some x => some (.real x)
      | none => (dateText? cs).map fun s => .text (String.ofList s)

end Fleet.Toml

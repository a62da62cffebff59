/-
Internet addresses as hosts. An IPv4 address has one to four numbers, decimal, octal or
hexadecimal; the last one fills all bytes that are left. An IPv6 address has eight groups of hex
digits, of which one run may be left out and the last two may be written as an IPv4 address.
-/
import Fleet.Number.Numeral
import Fleet.Text.Split

namespace Fleet.Url

/-! ## Numbers in a radix -/

/-- The value of a hex digit of either case. -/
def hexCharValue? (c : Char) : Option Nat :=
  if c.isDigit then some (c.toNat - 48)
  else if 'a' ≤ c && c ≤ 'f' then some (c.toNat - 87)
  else if 'A' ≤ c && c ≤ 'F' then some (c.toNat - 55)
  else none

/-- The value of digits in a radix of at most sixteen. -/
def radixValue? (radix : Nat) (cs : List Char) : Option Nat :=
  cs.foldlM (fun n c => (hexCharValue? c).bind fun d =>
    if d < radix then some (n * radix + d) else none) 0

/-! ## IPv4 -/

/-- A number of an IPv4 address: hexadecimal after `0x`, octal after another leading zero. -/
def ipv4Number? : List Char → Option Nat
  | [] => none
  | '0' :: c :: cs => if c == 'x' || c == 'X' then radixValue? 16 cs else radixValue? 8 (c :: cs)
  | cs => radixValue? 10 cs

/-- The parts of a host between dots, without an empty one at the end. -/
def dottedParts (cs : List Char) : List (List Char) :=
  match (Text.splitBy (· == '.') cs).reverse with
  | [] :: parts => parts.reverse
  | parts => parts.reverse

/-- Whether the last part of a host is a number, so that the host must be an IPv4 address. -/
def endsInNumber (cs : List Char) : Bool :=
  match (dottedParts cs).getLast? with
  | some part => (!part.isEmpty && part.all Char.isDigit) || (ipv4Number? part).isSome
  | none => false

/-- The address of up to four numbers: every number but the last is a byte. -/
def ipv4OfNumbers? (numbers : List Nat) : Option Nat :=
  match numbers.reverse with
  | [] => none
  | last :: leading =>
    if leading.length ≤ 3 && leading.all (· < 256) && last < Nat.pow 256 (4 - leading.length) then
      some (leading.reverse.foldl (fun n b => n * 256 + b) 0 * Nat.pow 256 (4 - leading.length) + last)
    else none

/-- The address a host that ends in a number stands for. -/
def ipv4? (cs : List Char) : Option Nat :=
  ((dottedParts cs).mapM ipv4Number?).bind ipv4OfNumbers?

/-- The text of an IPv4 address. -/
def ipv4Text (n : Nat) : List Char :=
  ['.'].intercalate ([n / 0x1000000, n / 0x10000 % 256, n / 256 % 256, n % 256].map (Nat.toDigits 10))

/-! ## IPv6 -/

/-- A byte of an IPv4 address inside an IPv6 address: decimal, without a leading zero. -/
def plainByte? (cs : List Char) : Option Nat :=
  if cs.isEmpty || !cs.all Char.isDigit || (cs.length > 1 && cs.head? == some '0') then none
  else if Numeral.digitsValue cs < 256 then some (Numeral.digitsValue cs)
  else none

/-- A group of one to four hex digits. -/
def group? (cs : List Char) : Option Nat :=
  if cs.isEmpty || cs.length > 4 then none else radixValue? 16 cs

/-- The two groups an IPv4 address at the end stands for. -/
def trailingGroups? (cs : List Char) : Option (List Nat) :=
  match (Text.splitBy (· == '.') cs).mapM plainByte? with
  | some [a, b, c, d] => some [a * 256 + b, c * 256 + d]
  | _ => none

/-- The groups that stand between colons; the last part may be an IPv4 address if `mixed`. -/
def groups? (mixed : Bool) : List (List Char) → Option (List Nat)
  | [] => some []
  | [part] =>
    match group? part with
    | some g => some [g]
    | none => if mixed then trailingGroups? part else none
  | part :: parts => (group? part).bind fun g => (groups? mixed parts).map (g :: ·)

/-- The groups of a text without a double colon. -/
def groupsOf? (mixed : Bool) (cs : List Char) : Option (List Nat) :=
  if cs.isEmpty then some [] else groups? mixed (Text.splitBy (· == ':') cs)

/-- What stands before and after the first double colon. -/
def splitDoubleColon : List Char → Option (List Char × List Char)
  | ':' :: ':' :: cs => some ([], cs)
  | c :: cs => (splitDoubleColon cs).map fun parts => (c :: parts.1, parts.2)
  | [] => none

/-- The eight groups of an IPv6 address. A double colon stands for at least one group of zero. -/
def ipv6? (cs : List Char) : Option (List Nat) :=
  match splitDoubleColon cs with
  | some (left, right) =>
    match groupsOf? false left, groupsOf? true right with
    | some l, some r =>
      if l.length + r.length ≤ 7 then
        some (l ++ List.replicate (8 - l.length - r.length) 0 ++ r)
      else none
    | _, _ => none
  | none =>
    match groupsOf? true cs with
    | some groups => if groups.length = 8 then some groups else none
    | none => none

/-- The length of the run of zeros at the start of a list. -/
def zeroRun (groups : List Nat) : Nat := (groups.takeWhile (· == 0)).length

/-- Where the first of the longest runs of zeros starts, and how long it is. -/
def longestZeroRun (groups : List Nat) : Nat × Nat :=
  (List.range groups.length).foldl
    (fun best i => if zeroRun (groups.drop i) > best.2 then (i, zeroRun (groups.drop i)) else best)
    (0, 0)

/-- Groups in lower-case hex digits with colons between them. -/
def groupsText (groups : List Nat) : List Char :=
  [':'].intercalate (groups.map (Nat.toDigits 16))

/-- The text of an IPv6 address: the first of the longest runs of at least two zeros is left
out. -/
def ipv6Text (groups : List Nat) : List Char :=
  match longestZeroRun groups with
  | (start, length) =>
    if length < 2 then groupsText groups
    else groupsText (groups.take start) ++ "::".toList ++ groupsText (groups.drop (start + length))

end Fleet.Url

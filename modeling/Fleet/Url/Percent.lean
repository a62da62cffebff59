/-
Percent-encoding. A character outside ASCII and every character of the set in force are written
as the bytes of their UTF-8 form, each byte as a percent sign and two upper-case hex digits; all
others stand for themselves. Decoding gives bytes, and a percent sign without two hex digits
behind it stands for itself.
-/
namespace Fleet.Url

/-! ## Sets of characters that are encoded -/

/-- Control characters and whatever is not ASCII. -/
def controlSet (c : Char) : Bool := c.toNat < 0x20 || 0x7F ≤ c.toNat

/-- What is encoded in a fragment. -/
def fragmentSet (c : Char) : Bool :=
  controlSet c || c == ' ' || c == '"' || c == '<' || c == '>' || c == '`'

/-- What is encoded in a path. -/
def pathSet (c : Char) : Bool :=
  fragmentSet c || c == '#' || c == '?' || c == '\x7b' || c == '\x7d'

/-- What is encoded in a query. -/
def querySet (c : Char) : Bool :=
  controlSet c || c == ' ' || c == '"' || c == '#' || c == '<' || c == '>'

/-- What is encoded in the query of a special scheme. -/
def specialQuerySet (c : Char) : Bool := querySet c || c == '\''

/-! ## Encoding -/

/-- An upper-case hex digit. -/
def hexDigit (n : Nat) : Char := (Nat.digitChar n).toUpper

/-- A byte as a percent sign and two digits. -/
def encodeByte (b : UInt8) : List Char :=
  ['%', hexDigit (b.toNat / 16), hexDigit (b.toNat % 16)]

/-- A character as it stands in an encoded text. -/
def encodeChar (set : Char → Bool) (c : Char) : List Char :=
  if set c then (String.utf8EncodeChar c).flatMap encodeByte else [c]

/-- The encoded text. -/
def encode (set : Char → Bool) (cs : List Char) : List Char := cs.flatMap (encodeChar set)

theorem encode_append (set : Char → Bool) (as bs : List Char) :
    encode set (as ++ bs) = encode set as ++ encode set bs := by
  simp [encode]

/-! ## Decoding -/

/-- The value of a hex digit. -/
def hexValue? (b : UInt8) : Option UInt8 :=
  if 0x30 ≤ b && b ≤ 0x39 then some (b - 0x30)
  else if 0x41 ≤ b && b ≤ 0x46 then some (b - 0x37)
  else if 0x61 ≤ b && b ≤ 0x66 then some (b - 0x57)
  else none

/-- The bytes an encoded list of bytes stands for. -/
def decode : List UInt8 → List UInt8
  | [] => []
  | b :: bytes =>
    match bytes with
    | high :: low :: rest =>
      match (if b == 0x25 then hexValue? high else none), hexValue? low with
      | some h, some l => (16 * h + l) :: decode rest
      | _, _ => b :: decode (high :: low :: rest)
    | rest => b :: decode rest

/-- The text an encoded text stands for, if its bytes are UTF-8. -/
def decodeText? (cs : List Char) : Option String :=
  String.fromUTF8? ⟨(decode (cs.flatMap String.utf8EncodeChar)).toArray⟩

end Fleet.Url

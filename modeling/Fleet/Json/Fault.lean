/-
Why and where a text is not JSON. A position counts lines from one and, within a line, the
bytes read since it began; a fault at a character that was only looked at counts its first byte
as read.
-/
namespace Fleet.Json

/-- What is wrong with a text at some place. -/
inductive Cause where
  | unclosedArray
  | unclosedObject
  | unclosedText
  | missingValue
  | expectedColon
  | expectedCommaOrBracket
  | expectedCommaOrBrace
  | expectedWord
  | expectedValue
  | invalidEscape
  | invalidNumber
  | numberOutOfRange
  | controlCharacter
  | keyNotText
  | loneSurrogate
  | cutSurrogatePair
  | trailingComma
  | trailingCharacters
  | tooDeep
  | repeatedField
deriving DecidableEq, Repr

/-- The words for a cause. -/
def Cause.message : Cause → String
  | unclosedArray => "EOF while parsing a list"
  | unclosedObject => "EOF while parsing an object"
  | unclosedText => "EOF while parsing a string"
  | missingValue => "EOF while parsing a value"
  | expectedColon => "expected `:`"
  | expectedCommaOrBracket => "expected `,` or `]`"
  | expectedCommaOrBrace => "expected `,` or `\x7d`"
  | expectedWord => "expected ident"
  | expectedValue => "expected value"
  | invalidEscape => "invalid escape"
  | invalidNumber => "invalid number"
  | numberOutOfRange => "number out of range"
  | controlCharacter => "control character (\\u0000-\\u001F) found while parsing a string"
  | keyNotText => "key must be a string"
  | loneSurrogate => "lone leading surrogate in hex escape"
  | cutSurrogatePair => "unexpected end of hex escape"
  | trailingComma => "trailing comma"
  | trailingCharacters => "trailing characters"
  | tooDeep => "recursion limit exceeded"
  | repeatedField => "duplicate field"

/-- A place in a text. -/
structure Position where
  line : Nat
  column : Nat
deriving DecidableEq, Repr

/-- The place where a text begins. -/
def Position.start : Position := ⟨1, 0⟩

/-- The place after one more character. -/
def Position.next (p : Position) (c : Char) : Position :=
  if c == '\n' then ⟨p.line + 1, 0⟩ else ⟨p.line, p.column + c.utf8Size⟩

/-- The place `bytes` bytes into the characters that follow. -/
def Position.ahead (p : Position) : Nat → List Char → Position
  | _, [] => p
  | bytes, c :: cs =>
    if bytes == 0 then p
    else if bytes < c.utf8Size then ⟨p.line, p.column + bytes⟩
    else (p.next c).ahead (bytes - c.utf8Size) cs

/-- A reader's stop: the cause, the characters not read, and how many bytes of them count as
read. -/
structure Stop where
  cause : Cause
  rest : List Char
  bytes : Nat
deriving DecidableEq

/-- A fault of a text, with its place. -/
structure Fault where
  cause : Cause
  position : Position
deriving DecidableEq, Repr

/-- The fault of a text at which a reader stopped. -/
def Stop.toFault (stop : Stop) (text : List Char) : Fault :=
  let read := text.take (text.length - stop.rest.length)
  ⟨stop.cause, (read.foldl Position.next Position.start).ahead stop.bytes stop.rest⟩

/-- The words for a fault and its place. -/
def Fault.message (fault : Fault) : String :=
  s!"{fault.cause.message} at line {fault.position.line} column {fault.position.column}"

end Fleet.Json

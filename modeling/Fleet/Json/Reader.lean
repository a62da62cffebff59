/-
Reading JSON text. A `Shape` says what a value is read for: any value, a record whose fields are
known, or a value to be skipped. What is skipped is checked for grammar only; what is kept is
also checked for depth, number range and surrogates, and a record's field may not be repeated.
Every reader gives back fewer characters than it was given, which is why reading ends.
-/
import Fleet.Json.Literal

namespace Fleet.Json

/-- What a value is read for. -/
inductive Shape where
  | any
  | ignored
  | record (fields : List (String × Shape))

namespace Shape

/-- Whether the value is kept. -/
def isKept : Shape → Bool
  | ignored => false
  | _ => true

/-- What the member under a key is read for: the unknown fields of a record are skipped. -/
def member (shape : Shape) (key : String) : Shape :=
  match shape with
  | any => any
  | ignored => ignored
  | record fields => (fields.lookup key).getD ignored

/-- What the item at an index is read for: a record written as an array lists its fields. -/
def item (shape : Shape) (index : Nat) : Shape :=
  match shape with
  | any => any
  | ignored => ignored
  | record fields => (fields[index]?.map (·.2)).getD any

end Shape

/-- The deepest nesting of arrays and objects that is kept is one less. -/
def depthLimit : Nat := 128

/-! ## Values -/

/-- The blanks between the tokens of JSON text. -/
def isSpace (c : Char) : Bool := c == ' ' || c == '\t' || c == '\n' || c == '\r'

/-- The characters from the first that is not a blank. -/
def skipSpace (cs : List Char) : List Char := cs.dropWhile isSpace

theorem length_skipSpace_le (cs : List Char) : (skipSpace cs).length ≤ cs.length :=
  (List.dropWhile_suffix isSpace).length_le

theorem length_of_skipSpace {cs rest : List Char} {c : Char} (h : skipSpace cs = c :: rest) :
    rest.length < cs.length := by
  have := length_skipSpace_le cs
  rw [h] at this
  exact this

/-- What a reader of `α` gives: a value and fewer than `n` characters, or a stop. -/
abbrev Reading (α : Type) (n : Nat) := Except Stop (α × { rest : List Char // rest.length < n })

/-- The same reading under a larger bound. -/
def Reading.widen {α : Type} {m n : Nat} (h : m ≤ n) : Reading α m → Reading α n
  | .ok (value, rest) => .ok (value, ⟨rest.1, by have := rest.2; omega⟩)
  | .error stop => .error stop

/-- Reads a key and the colon after it. -/
def readKey (strict : Bool) (cs : List Char) : Reading String cs.length :=
  match h : readText strict [] cs with
  | .error stop => .error stop
  | .ok (key, afterKey) =>
    match hc : skipSpace afterKey with
    | [] => .error ⟨.unclosedObject, [], 0⟩
    | c :: rest =>
      if c == ':' then
        .ok (String.ofList key, ⟨rest, by
          have := length_of_readText h
          have := length_of_skipSpace hc
          omega⟩)
      else .error ⟨.expectedColon, c :: rest, 1⟩

/-- The object made of the members read, or a stop at a repeated field of a record. -/
def finishObject (shape : Shape) (members : List (String × Json)) (rest : List Char) :
    Except Stop Json :=
  match shape with
  | .any => .ok (ofMembers members)
  | .ignored => .ok .null
  | .record fields =>
    let known := members.filter fun m => fields.any (·.1 == m.1)
    if (known.map (·.1)).Nodup then .ok (.object known) else .error ⟨.repeatedField, rest, 0⟩

mutual

/-- Reads one value; `depth` is how many more levels of arrays and objects it may open. -/
def readValue (shape : Shape) (depth : Nat) (cs : List Char) : Reading Json cs.length :=
  match hs : skipSpace cs with
  | [] => .error ⟨.missingValue, [], 0⟩
  | c :: rest =>
    have hr : rest.length < cs.length := length_of_skipSpace hs
    let strict := shape.isKept
    let word (expected : List Char) (value : Json) : Reading Json cs.length :=
      match hw : readWord expected rest with
      | .error stop => .error stop
      | .ok tail => .ok (value, ⟨tail, by have := length_of_readWord hw; omega⟩)
    if c == 'n' then word ['u', 'l', 'l'] .null
    else if c == 't' then word ['r', 'u', 'e'] (.bool true)
    else if c == 'f' then word ['a', 'l', 's', 'e'] (.bool false)
    else if c == '"' then
      match ht : readText strict [] rest with
      | .error stop => .error stop
      | .ok (s, tail) =>
        .ok (.text (String.ofList s), ⟨tail, by have := length_of_readText ht; omega⟩)
    else if c == '-' then
      match hn : readNumber strict true rest with
      | .error stop => .error stop
      | .ok (n, tail) => .ok (.number n, ⟨tail, by have := length_of_readNumber hn; omega⟩)
    else if c.isDigit then
      match hn : readNumber strict false (c :: rest) with
      | .error stop => .error stop
      | .ok (n, tail) =>
        .ok (.number n, ⟨tail, by have := length_of_readNumber hn; simp at this; omega⟩)
    else if c == '[' then
      if strict && depth ≤ 1 then .error ⟨.tooDeep, c :: rest, 1⟩
      else Reading.widen (by omega) (readItems shape (depth - 1) rest)
    else if c == '\x7b' then
      if strict && depth ≤ 1 then .error ⟨.tooDeep, c :: rest, 1⟩
      else Reading.widen (by omega) (readMembers shape (depth - 1) rest)
    else .error ⟨.expectedValue, c :: rest, 1⟩
termination_by 2 * cs.length

/-- Reads an array after its opening bracket. -/
def readItems (shape : Shape) (depth : Nat) (cs : List Char) : Reading Json cs.length :=
  match hs : skipSpace cs with
  | [] => .error ⟨.unclosedArray, [], 0⟩
  | c :: rest =>
    have hr : rest.length < cs.length := length_of_skipSpace hs
    if c == ']' then .ok (.array [], ⟨rest, hr⟩)
    else
      match readValue (shape.item 0) depth cs with
      | .error stop => .error stop
      | .ok (value, tail) =>
        Reading.widen (Nat.le_of_lt tail.2) (readMoreItems shape depth [value] tail.1)
termination_by 2 * cs.length + 1
decreasing_by
  · omega
  · have := tail.2
    omega

/-- Reads the rest of an array after the items `read`, last first. -/
def readMoreItems (shape : Shape) (depth : Nat) (read : List Json) (cs : List Char) :
    Reading Json cs.length :=
  match hs : skipSpace cs with
  | [] => .error ⟨.unclosedArray, [], 0⟩
  | c :: rest =>
    have hr : rest.length < cs.length := length_of_skipSpace hs
    if c == ']' then .ok (.array read.reverse, ⟨rest, hr⟩)
    else if c == ',' then
      match skipSpace rest with
      | [] => .error ⟨.missingValue, [], 0⟩
      | ']' :: tail => .error ⟨.trailingComma, ']' :: tail, 1⟩
      | _ =>
        match readValue (shape.item read.length) depth rest with
        | .error stop => .error stop
        | .ok (value, tail) =>
          Reading.widen (by have := tail.2; omega)
            (readMoreItems shape depth (value :: read) tail.1)
    else .error ⟨.expectedCommaOrBracket, c :: rest, 1⟩
termination_by 2 * cs.length
decreasing_by
  · omega
  · have := tail.2
    omega

/-- Reads an object after its opening brace. -/
def readMembers (shape : Shape) (depth : Nat) (cs : List Char) : Reading Json cs.length :=
  match hs : skipSpace cs with
  | [] => .error ⟨.unclosedObject, [], 0⟩
  | c :: rest =>
    have hr : rest.length < cs.length := length_of_skipSpace hs
    if c == '\x7d' then
      match finishObject shape [] rest with
      | .error stop => .error stop
      | .ok value => .ok (value, ⟨rest, hr⟩)
    else if c == '"' then Reading.widen (by omega) (readMember shape depth [] rest)
    else .error ⟨.keyNotText, c :: rest, 1⟩
termination_by 2 * cs.length
decreasing_by omega

/-- Reads a member after the quote that opens its key, and the rest of the object. -/
def readMember (shape : Shape) (depth : Nat) (read : List (String × Json)) (cs : List Char) :
    Reading Json cs.length :=
  match readKey shape.isKept cs with
  | .error stop => .error stop
  | .ok (key, afterKey) =>
    match readValue (shape.member key) depth afterKey.1 with
    | .error stop => .error stop
    | .ok (value, tail) =>
      Reading.widen (by have := tail.2; have := afterKey.2; omega)
        (readMoreMembers shape depth ((key, value) :: read) tail.1)
termination_by 2 * cs.length
decreasing_by
  · have := afterKey.2
    omega
  · have := tail.2
    have := afterKey.2
    omega

/-- Reads the rest of an object after the members `read`, last first. -/
def readMoreMembers (shape : Shape) (depth : Nat) (read : List (String × Json))
    (cs : List Char) : Reading Json cs.length :=
  match hs : skipSpace cs with
  | [] => .error ⟨.unclosedObject, [], 0⟩
  | c :: rest =>
    have hr : rest.length < cs.length := length_of_skipSpace hs
    if c == '\x7d' then
      match finishObject shape read.reverse rest with
      | .error stop => .error stop
      | .ok value => .ok (value, ⟨rest, hr⟩)
    else if c == ',' then
      match ht : skipSpace rest with
      | [] => .error ⟨.missingValue, [], 0⟩
      | d :: tail =>
        have hd : tail.length < rest.length := length_of_skipSpace ht
        if d == '"' then Reading.widen (by omega) (readMember shape depth read tail)
        else if d == '\x7d' then .error ⟨.trailingComma, d :: tail, 1⟩
        else .error ⟨.keyNotText, d :: tail, 1⟩
    else .error ⟨.expectedCommaOrBrace, c :: rest, 1⟩
termination_by 2 * cs.length
decreasing_by omega

end

/-! ## Whole texts -/

/-- Reads a text that holds one value for a shape and blanks around it. -/
def readAs (shape : Shape) (text : String) : Except Fault Json :=
  let cs := text.toList
  match readValue shape depthLimit cs with
  | .error stop => .error (stop.toFault cs)
  | .ok (value, rest) =>
    match skipSpace rest.1 with
    | [] => .ok value
    | c :: tail => .error (Stop.toFault ⟨.trailingCharacters, c :: tail, 1⟩ cs)

/-- Reads a text that holds one value and blanks around it. -/
def read (text : String) : Except Fault Json := readAs .any text

end Fleet.Json

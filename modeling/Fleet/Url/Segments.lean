/-
The path of a URL as a list of segments. A segment of one dot stands for nothing and one of two
dots takes the segment before it away, whether the dots are written plainly or percent-encoded;
at the end of a path either of them leaves an empty segment.
-/
import Fleet.Text.Split
import Fleet.Url.Percent

namespace Fleet.Url

/-- The segment with every percent-encoded dot written plainly. -/
def plainDots : List Char → List Char
  | '%' :: '2' :: c :: cs =>
    if c == 'e' || c == 'E' then '.' :: plainDots cs else '%' :: '2' :: plainDots (c :: cs)
  | c :: cs => c :: plainDots cs
  | [] => []

/-- Whether the segment is one dot. -/
def isDot (segment : List Char) : Bool := plainDots segment == ['.']

/-- Whether the segment is two dots. -/
def isDoubleDot (segment : List Char) : Bool := plainDots segment == ['.', '.']

/-- The segments kept, last first, after one more that a slash follows. -/
def pushSegment (kept : List (List Char)) (segment : List Char) : List (List Char) :=
  if isDoubleDot segment then kept.tail
  else if isDot segment then kept
  else segment :: kept

/-- The segments kept, last first, after the last one. -/
def pushLast (kept : List (List Char)) (segment : List Char) : List (List Char) :=
  if isDoubleDot segment then [] :: kept.tail
  else if isDot segment then [] :: kept
  else segment :: kept

/-- The segments kept, last first, after all of a list. -/
def pushAll (kept : List (List Char)) : List (List Char) → List (List Char)
  | [] => kept
  | [segment] => pushLast kept segment
  | segment :: rest => pushAll (pushSegment kept segment) rest

/-- What ends a segment: a slash, and in a special scheme also a backslash. -/
def isSlash (special : Bool) (c : Char) : Bool := c == '/' || (special && c == '\\')

/-- The segments of a path after its first slash, encoded and with the dots resolved. -/
def segments (special : Bool) (cs : List Char) : List (List Char) :=
  (pushAll [] ((Text.splitBy (isSlash special) cs).map (encode pathSet))).reverse

end Fleet.Url

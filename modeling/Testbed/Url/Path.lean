import Testbed.Url.Address
import Testbed.Url.PercentEncoding

/-!
# Paths of URLs

The path of a URL that is not a plain text is a list of segments. Reading one removes the segments
`.` and `..`, also when their points are percent-encoded; `..` takes the segment before it away.

**Drive letters.** A segment that is a letter and `:` or `|` is not taken away by `..`. In the
`file` scheme a first segment of that form is written with `:`, and the path does not start with
empty segments.
-/

namespace Testbed.Url

/-- A letter and a colon or bar. -/
def isDriveLetter : List Char → Bool
  | [c, d] => c.isAlpha && (d == ':' || d == '|')
  | _ => false

/-- A segment in lower case, with its encoded points read back. -/
def readPoints : List Char → List Char
  | '%' :: '2' :: 'e' :: rest => '.' :: readPoints rest
  | '%' :: '2' :: 'E' :: rest => '.' :: readPoints rest
  | c :: rest => c :: readPoints rest
  | [] => []

/-- The segments after `..`. -/
def dropLastSegment (segments : List (List Char)) : List (List Char) :=
  match segments.getLast? with
  | some last => if isDriveLetter last then segments else segments.dropLast
  | none => []

/-- A segment as it is kept. -/
def keptSegment (file first : Bool) (segment : List Char) : List Char :=
  match segment with
  | [c, '|'] => if file && first && c.isAlpha then [c, ':'] else segment
  | _ => segment

/-- Adds encoded segments, the last of which ends the path, to those already read. -/
def addSegments (file : Bool) (segments : List (List Char)) : List (List Char) → List (List Char)
  | [] => segments
  | segment :: rest =>
    let close (l : List (List Char)) := if rest.isEmpty then l ++ [[]] else l
    let segments :=
      if readPoints segment = ['.', '.'] then close (dropLastSegment segments)
      else if readPoints segment = ['.'] then close segments
      else segments ++ [keptSegment file segments.isEmpty segment]
    addSegments file segments rest

/-- Segments without empty ones at the start, but never none at all. -/
def dropEmptyFirst : List (List Char) → List (List Char)
  | [] :: s :: rest => dropEmptyFirst (s :: rest)
  | segments => segments

def segmentsOf (special file : Bool) (cs : List Char) : List (List Char) :=
  let parts := splitAt (fun c => c == '/' || (special && c == '\\')) cs
  let segments := addSegments file [] (parts.map (percentEncode inPathSet))
  if file then dropEmptyFirst segments else segments

def pathText (segments : List (List Char)) : List Char := segments.flatMap fun s => '/' :: s

end Testbed.Url

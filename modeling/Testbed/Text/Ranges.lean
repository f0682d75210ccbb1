import Testbed.Text.Utf8

/-!
# Sets of code points

A set of code points as a sorted array of inclusive ranges. Long sets are written as text, one
range after another in hexadecimal (`CodeRanges.ofText`), for example `80-a0 ad 300-36f`; blanks and
line breaks stand between them.
-/

namespace Testbed

/-- Inclusive ranges of code points, sorted and apart from one another. -/
abbrev CodeRanges := Array (Nat × Nat)

namespace CodeRanges

/-- Where the reading of a text of ranges stands. -/
structure Cursor where
  /-- The ranges read so far. -/
  done : CodeRanges := #[]
  /-- The lower end of a range whose upper end is being read. -/
  low : Option Nat := none
  /-- The number being read. -/
  number : Option Nat := none

/-- Ends the range being read. -/
def Cursor.close (s : Cursor) : Cursor :=
  match s.number with
  | none => { s with low := none }
  | some n => ⟨s.done.push (s.low.getD n, n), none, none⟩

def Cursor.step (s : Cursor) (c : Char) : Cursor :=
  if c = ' ' ∨ c = '\n' then s.close
  else if c = '-' then { s with low := s.number, number := none }
  else match hexValue? c with
    | some d => { s with number := some (s.number.getD 0 * 16 + d) }
    | none => s

/-- The ranges written in a text. -/
def ofText (text : String) : CodeRanges :=
  (text.toList.foldl Cursor.step {}).close.done

/-- Searches the ranges from `low` up to `high`; `fuel` bounds the halvings. -/
def search (ranges : CodeRanges) (code : Nat) : Nat → Nat → Nat → Bool
  | 0, _, _ => false
  | fuel + 1, low, high =>
    if low < high then
      let mid := (low + high) / 2
      match ranges[mid]? with
      | none => false
      | some (a, b) =>
        if code < a then search ranges code fuel low mid
        else if b < code then search ranges code fuel (mid + 1) high
        else true
    else false

def contains (ranges : CodeRanges) (code : Nat) : Bool :=
  search ranges code (ranges.size + 1) 0 ranges.size

end CodeRanges
end Testbed

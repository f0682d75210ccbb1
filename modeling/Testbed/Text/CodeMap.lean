import Testbed.Text.Ranges

/-!
# Tables of code points

A table gives numbers to ranges of code points. Long tables are written as text (`CodeMap.ofText`):
an entry is a code point or a range, a colon, and one or more numbers with dots between them, all in
hexadecimal, for example `c0-d6:e0 132:69.6a`.
-/

namespace Testbed

/-- Numbers for a range of code points. -/
structure CodeEntry where
  low : Nat
  high : Nat
  values : List Nat

/-- Entries whose ranges are sorted and apart from one another. -/
abbrev CodeMap := Array CodeEntry

namespace CodeMap

/-- Where the reading of a table stands. -/
structure Cursor where
  /-- The entries read so far. -/
  done : CodeMap := #[]
  /-- The lower end of the range, once it is read. -/
  low : Option Nat := none
  /-- The upper end of the range, once it is read. -/
  high : Option Nat := none
  /-- The numbers of the entry, the last one first. -/
  values : List Nat := []
  /-- The number being read. -/
  number : Nat := 0

/-- Ends the entry being read. -/
def Cursor.close (s : Cursor) : Cursor :=
  match s.high with
  | none => { done := s.done }
  | some high =>
    { done := s.done.push ⟨s.low.getD high, high, (s.number :: s.values).reverse⟩ }

def Cursor.step (s : Cursor) (c : Char) : Cursor :=
  if c = ' ' ∨ c = '\n' then s.close
  else if c = '-' then { s with low := some s.number, number := 0 }
  else if c = ':' then { s with high := some s.number, number := 0 }
  else if c = '.' then { s with values := s.number :: s.values, number := 0 }
  else { s with number := s.number * 16 + (hexValue? c).getD 0 }

/-- The table written in a text. -/
def ofText (text : String) : CodeMap := (text.toList.foldl Cursor.step {}).close.done

/-- Searches the entries from `low` up to `high`; `fuel` bounds the halvings. -/
def search (map : CodeMap) (code : Nat) : Nat → Nat → Nat → Option CodeEntry
  | 0, _, _ => none
  | fuel + 1, low, high =>
    if low < high then
      let mid := (low + high) / 2
      match map[mid]? with
      | none => none
      | some e =>
        if code < e.low then search map code fuel low mid
        else if e.high < code then search map code fuel (mid + 1) high
        else some e
    else none

def find? (map : CodeMap) (code : Nat) : Option CodeEntry :=
  search map code (map.size + 1) 0 map.size

end CodeMap
end Testbed

/-!
# Places in a pattern

A place is told by its line and its column, both from 1; a column counts characters. A span goes
from one place up to, and not including, another.
-/

namespace Testbed.Regex

/-- A place between two characters of a pattern. -/
structure Position where
  line : Nat
  column : Nat
  deriving DecidableEq

namespace Position

def first : Position := ⟨1, 1⟩

def after (p : Position) (c : Char) : Position :=
  if c = '\n' then ⟨p.line + 1, 1⟩ else ⟨p.line, p.column + 1⟩

/-- The order in which places follow one another. -/
def before (p q : Position) : Bool :=
  p.line < q.line || (p.line == q.line && p.column < q.column)

end Position

/-- A part of a pattern. -/
structure Span where
  start : Position
  stop : Position
  deriving DecidableEq

namespace Span

/-- The empty part at a place. -/
def point (p : Position) : Span := ⟨p, p⟩

/-- A part that starts at the same place and ends at another. -/
def upTo (s : Span) (stop : Position) : Span := ⟨s.start, stop⟩

def inOneLine (s : Span) : Bool := s.start.line == s.stop.line

/-- Parts are ordered by where they start, then by where they end. -/
def before (s t : Span) : Bool :=
  s.start.before t.start || (s.start == t.start && s.stop.before t.stop)

end Span

end Testbed.Regex

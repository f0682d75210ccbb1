/-!
# Durations

A duration is a whole number of nanoseconds.
-/

namespace Testbed

/-- A length of time in nanoseconds. -/
structure Duration where
  nanos : Nat
deriving DecidableEq, Repr, Inhabited

namespace Duration

/-- Whole seconds and further nanoseconds. -/
def ofParts (secs nanos : Nat) : Duration := ⟨secs * 1000000000 + nanos⟩

def ofSecs (n : Nat) : Duration := ofParts n 0

def ofMillis (n : Nat) : Duration := ⟨n * 1000000⟩

def ofMicros (n : Nat) : Duration := ⟨n * 1000⟩

/-- The whole seconds of a duration. -/
def secs (d : Duration) : Nat := d.nanos / 1000000000

/-- The nanoseconds beyond the whole seconds. -/
def subsecNanos (d : Duration) : Nat := d.nanos % 1000000000

/-- The duration in milliseconds, rounded down. -/
def millis (d : Duration) : Nat := d.nanos / 1000000

instance : LE Duration := ⟨fun a b => a.nanos ≤ b.nanos⟩
instance : LT Duration := ⟨fun a b => a.nanos < b.nanos⟩
instance (a b : Duration) : Decidable (a ≤ b) := inferInstanceAs (Decidable (a.nanos ≤ b.nanos))
instance (a b : Duration) : Decidable (a < b) := inferInstanceAs (Decidable (a.nanos < b.nanos))

/-- One duration after another. -/
instance : Add Duration := ⟨fun a b => ⟨a.nanos + b.nanos⟩⟩

def longer (a b : Duration) : Duration := if a ≤ b then b else a

def shorter (a b : Duration) : Duration := if a ≤ b then a else b

/-- What is left of `a` after `b`, nothing when `b` is longer. -/
def remaining (a b : Duration) : Duration := ⟨a.nanos - b.nanos⟩

end Duration
end Testbed

/-!
# Finite binary64 numbers

A `Binary64` is `± mant · 2 ^ exp`, exact in natural-number arithmetic.

**Canonical form.** Every operation here returns a number with `mant < 2 ^ 53` and
`-1074 ≤ exp ≤ 971`, and with `2 ^ 52 ≤ mant` unless `exp = -1074`; a zero has `exp = -1074`. Two
canonical numbers other than the zeros therefore denote the same value only if they are equal,
which is what `Binary64.same` tests.

**Rounding.** Each operation computes its exact quotient and rounds once, to the nearest
representable number and on a tie to the even mantissa (`Binary64.round?`). A result too large to
be represented is `none`.
-/

namespace Testbed

/-- A finite number in the binary64 format. -/
structure Binary64 where
  /-- Whether the sign is negative; zeros have a sign too. -/
  neg : Bool
  /-- The significand, an integer below `2 ^ 53`. -/
  mant : Nat
  /-- The power of two that scales the significand. -/
  exp : Int
deriving DecidableEq, Repr, Inhabited

namespace Binary64

def minExp : Int := -1074

def maxExp : Int := 971

/-- The zero of a sign. -/
def zero (neg : Bool) : Binary64 := ⟨neg, 0, minExp⟩

/-- Whether the number is a zero of either sign. -/
def isZero (x : Binary64) : Bool := x.mant == 0

/-- Numeric equality: the two zeros are equal. -/
def same (x y : Binary64) : Bool := (x.isZero && y.isZero) || x == y

def negate (x : Binary64) : Binary64 := { x with neg := !x.neg }

/-- The exact ratio `num / den · 2 ^ e` as a quotient of two naturals. -/
def scaled (num den : Nat) (e : Int) : Nat × Nat :=
  if 0 ≤ e then (num <<< e.toNat, den) else (num, den <<< (-e).toNat)

/-- The quotient rounded to the nearest natural, a tie to the even one. -/
def divNearestEven (num den : Nat) : Nat :=
  let q := num / den
  let r := num % den
  if 2 * r < den then q
  else if 2 * r = den then q + q % 2
  else q + 1

/-- The exponent at which the integer part of `num / den` has 53 bits, but not below `minExp`. -/
def exponentFor (num den : Nat) : Int :=
  let guess : Int := (num.log2 : Int) - (den.log2 : Int) - 53
  let (n, d) := scaled num den (-guess)
  let e := if n / d < 1 <<< 53 then guess else guess + 1
  if e < minExp then minExp else e

/-- The number nearest to `± num / den`, or `none` when it is too large. -/
def round? (neg : Bool) (num den : Nat) : Option Binary64 :=
  if num = 0 then some (zero neg)
  else
    let e := exponentFor num den
    let (n, d) := scaled num den (-e)
    let m := divNearestEven n d
    let (m, e) := if m = 1 <<< 53 then (1 <<< 52, e + 1) else (m, e)
    if m = 0 then some (zero neg)
    else if maxExp < e then none
    else some ⟨neg, m, e⟩

def ofNat? (n : Nat) : Option Binary64 := round? false n 1

/-- The nearest number to an integer. -/
def ofInt? (i : Int) : Option Binary64 := round? (decide (i < 0)) i.natAbs 1

def mul? (x y : Binary64) : Option Binary64 :=
  let (n, d) := scaled (x.mant * y.mant) 1 (x.exp + y.exp)
  round? (x.neg != y.neg) n d

/-- The rounded quotient; the divisor must not be zero. -/
def div? (x y : Binary64) : Option Binary64 :=
  let (n, d) := scaled x.mant y.mant (x.exp - y.exp)
  round? (x.neg != y.neg) n d

/-- The nearest number to a power of ten. -/
def tenPow? (k : Nat) : Option Binary64 := round? false (Nat.pow 10 k) 1

end Binary64
end Testbed

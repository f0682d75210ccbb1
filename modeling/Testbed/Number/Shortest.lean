import Testbed.Number.Binary64

/-!
# The shortest decimal of a binary64 number

**The rule.** Among the decimals that round to a given number, take the fewest significant
digits, and of those with that many digits the nearest. `Binary64.shortest` tries one digit, two
digits, and so on: on each decimal grid only the two neighbours of the exact value can lie in the
interval of reals that round to it (both ends belong to the interval when the mantissa is even).

**The text.** `Binary64.text` writes those digits positionally when the scientific exponent is
from `-5` to `15`, always with a fraction part, and otherwise with an exponent that carries its
sign.
-/

namespace Testbed.Binary64

/-- A decimal `0 < digits`, read as `d.ddd · 10 ^ exponent`. -/
structure Decimal where
  digits : Nat
  exponent : Int
deriving DecidableEq, Repr

/-- `num / den` times ten to the power `k`, as a quotient of naturals. -/
def tenScaled (num den : Nat) (k : Int) : Nat × Nat :=
  if 0 ≤ k then (num * Nat.pow 10 k.toNat, den) else (num, den * Nat.pow 10 (-k).toNat)

/-- The exponent of the leading decimal digit of `num / den`. -/
def leadingExponent (num den : Nat) : Int :=
  let bits : Int := (num.log2 : Int) - (den.log2 : Int)
  let guess : Int := (bits * 30103).fdiv 100000
  let reaches (k : Int) : Bool :=
    let (n, d) := tenScaled num den (-k)
    decide (d ≤ n)
  ([guess + 2, guess + 1, guess, guess - 1].find? reaches).getD (guess - 2)

/--
The neighbours of a value on the grid of `n`-digit decimals that lie between two bounds, the
nearer one first.
-/
def gridHits (value low high : Nat) (closed : Bool) (den : Nat) (lead : Int) (n : Nat) :
    List Nat :=
  let shift : Int := (n : Int) - 1 - lead
  let (v, d) := tenScaled value den shift
  let (lo, _) := tenScaled low den shift
  let (hi, _) := tenScaled high den shift
  let below := v / d
  let inside (c : Nat) : Bool :=
    if closed then decide (lo ≤ c * d ∧ c * d ≤ hi) else decide (lo < c * d ∧ c * d < hi)
  let nearer := divNearestEven v d
  let other := if nearer = below then below + 1 else below
  [nearer, other].filter inside

/-- The fewest digits that read back as the number, and of those the nearest. -/
def shortest (x : Binary64) : Decimal :=
  let (unit, den) := scaled 1 1 (x.exp - 2)
  let value := 4 * x.mant * unit
  let low :=
    if x.mant = 1 <<< 52 ∧ minExp < x.exp then (4 * x.mant - 1) * unit else (4 * x.mant - 2) * unit
  let high := (4 * x.mant + 2) * unit
  let lead := leadingExponent value den
  let hit (n : Nat) : Option Decimal :=
    ((gridHits value low high (x.mant % 2 == 0) den lead n).head?).map fun c =>
      if c = Nat.pow 10 n then ⟨1, lead + 1⟩ else ⟨c, lead⟩
  (((List.range 17).findSome? fun i => hit (i + 1))).getD ⟨0, 0⟩

/-- The digits of a natural in base ten. -/
def decimalDigits (n : Nat) : List Char := Nat.toDigits 10 n

/-- Digits with zeros at the end taken off, but never all of them. -/
def trimZeros (ds : List Char) : List Char :=
  match (ds.reverse.dropWhile (· == '0')).reverse with
  | [] => ['0']
  | ds => ds

/-- The text of digits whose first one has the given decimal exponent. -/
def layout (ds : List Char) (e : Int) : List Char :=
  let n : Int := ds.length
  if 0 ≤ e ∧ e ≤ 15 then
    if n ≤ e + 1 then ds ++ List.replicate (e + 1 - n).toNat '0' ++ ['.', '0']
    else ds.take (e + 1).toNat ++ '.' :: ds.drop (e + 1).toNat
  else if -5 ≤ e ∧ e < 0 then
    ['0', '.'] ++ List.replicate (-e - 1).toNat '0' ++ ds
  else
    let fraction := match ds with
      | d :: [] => [d]
      | d :: rest => d :: '.' :: rest
      | [] => []
    fraction ++ 'e' :: (if e < 0 then '-' else '+') :: decimalDigits e.natAbs

def text (x : Binary64) : String :=
  let body :=
    if x.isZero then ['0', '.', '0']
    else
      let d := x.shortest
      layout (trimZeros (decimalDigits d.digits)) d.exponent
  String.ofList (if x.neg then '-' :: body else body)

end Testbed.Binary64

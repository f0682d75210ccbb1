/-!
# Punycode

Texts with characters above ASCII, written in lower-case ASCII: first the ASCII characters of the
text, then, in order of their code points, where each of the other characters is inserted. A
position and a step in code points are one number, written in base 36 with digits of variable
weight; the weights adapt to the numbers before (`Punycode.adapt`).

The numbers of a text that can be decoded stay below `2 ^ 32`.
-/

namespace Testbed.Url.Punycode

def digitChar (d : Nat) : Char := if d < 26 then Char.ofNat (97 + d) else Char.ofNat (22 + d)

/-- The value of a digit in base 36. -/
def digitValue? (c : Char) : Option Nat :=
  if 'a' ≤ c ∧ c ≤ 'z' then some (c.toNat - 97)
  else if 'A' ≤ c ∧ c ≤ 'Z' then some (c.toNat - 65)
  else if '0' ≤ c ∧ c ≤ '9' then some (c.toNat - 22)
  else none

/-- The least digit that is not the last one, for digit number `k / 36`. -/
def threshold (k bias : Nat) : Nat :=
  if k ≤ bias then 1 else if bias + 26 ≤ k then 26 else k - bias

/-- Divides by 35 as long as the number is above 455; counts the divisions in steps of 36. -/
def shrink (delta k : Nat) : Nat × Nat :=
  if 455 < delta then shrink (delta / 35) (k + 36) else (delta, k)
termination_by delta
decreasing_by exact Nat.div_lt_self (by omega) (by omega)

/-- The bias after a number. -/
def adapt (delta count : Nat) (first : Bool) : Nat :=
  let delta := if first then delta / 700 else delta / 2
  let (delta, k) := shrink (delta + delta / count) 0
  k + 36 * delta / (delta + 38)

/-- A number in digits of variable weight; `fuel` bounds their count. -/
def digitsOf (bias : Nat) : Nat → Nat → Nat → List Char
  | 0, _, _ => []
  | fuel + 1, k, q =>
    let t := threshold k bias
    if q < t then [digitChar q]
    else digitChar (t + (q - t) % (36 - t)) :: digitsOf bias fuel (k + 36) ((q - t) / (36 - t))

/-- Where writing stands. -/
structure Writer where
  delta : Nat
  bias : Nat
  handled : Nat
  out : List Char

/-- Passes one character while the code point `n` is being written. -/
def Writer.pass (basic n : Nat) (w : Writer) (c : Char) : Writer :=
  if c.toNat < n then { w with delta := w.delta + 1 }
  else if c.toNat = n then
    { delta := 0
      bias := adapt w.delta (w.handled + 1) (w.handled == basic)
      handled := w.handled + 1
      out := w.out ++ digitsOf w.bias (w.delta + 2) 36 w.delta }
  else w

/-- Writes the code points from `n` on, the given ones in increasing order. -/
def writeCodes (basic : Nat) (cs : List Char) : Writer → Nat → List Nat → Writer
  | w, _, [] => w
  | w, n, m :: rest =>
    let w := { w with delta := w.delta + (m - n) * (w.handled + 1) }
    let w := cs.foldl (Writer.pass basic m) w
    writeCodes basic cs { w with delta := w.delta + 1 } (m + 1) rest

/-- A sorted list without its repetitions. -/
def distinct : List Nat → List Nat
  | a :: b :: rest => if a = b then distinct (b :: rest) else a :: distinct (b :: rest)
  | l => l

def encode (cs : List Char) : List Char :=
  let ascii := cs.filter fun c => c.toNat < 0x80
  let codes := distinct ((cs.map Char.toNat).filter fun n => 0x80 ≤ n).mergeSort
  let start := if ascii.isEmpty then [] else ascii ++ ['-']
  (writeCodes ascii.length cs ⟨0, 72, ascii.length, start⟩ 0x80 codes).out

/-- Reads one number of variable weight, and what follows it. -/
def readNumber (bias : Nat) (acc weight k : Nat) : List Char → Option (Nat × List Char)
  | [] => none
  | c :: rest =>
    match digitValue? c with
    | none => none
    | some d =>
      let acc := acc + d * weight
      let t := threshold k bias
      if UInt32.size ≤ acc then none
      else if d < t then some (acc, rest)
      else readNumber bias acc (weight * (36 - t)) (k + 36) rest

/-- Inserts the characters that the numbers name; `fuel` bounds their count. -/
def insertAll : Nat → Nat → Nat → Nat → List Char → List Char → Option (List Char)
  | _, _, _, _, out, [] => some out
  | 0, _, _, _, _, _ => none
  | fuel + 1, n, i, bias, out, digits =>
    match readNumber bias 0 1 36 digits with
    | none => none
    | some (delta, rest) =>
      let count := out.length + 1
      let n := n + (i + delta) / count
      let place := (i + delta) % count
      if 0x10FFFF < n ∨ (0xD800 ≤ n ∧ n ≤ 0xDFFF) then none
      else
        insertAll fuel n (place + 1) (adapt delta count (i == 0))
          (out.take place ++ Char.ofNat n :: out.drop place) rest

/-- The text of an ASCII form; what stands before the last hyphen are its ASCII characters. -/
def decode (cs : List Char) : Option (List Char) :=
  let digits := (cs.reverse.takeWhile (· != '-')).reverse
  let ascii := cs.take (cs.length - digits.length - 1)
  if ascii.isEmpty ∧ digits.length < cs.length then none
  else insertAll digits.length 0x80 0 72 ascii digits

end Testbed.Url.Punycode

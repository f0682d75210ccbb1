import Testbed.Json.Fault
import Testbed.Json.Value

/-!
# Numerals

Reads the number at the front of a text.

**Integers.** A numeral without fraction and exponent that fits 64 bits is an integer, except
`-0`, which is a real so that its sign is kept.

**Reals.** Every other numeral is read as a significand of at most 64 bits (further digits only
scale it) and a power of ten. The significand is rounded to binary64 first and then multiplied or
divided by a rounded power of ten, so two roundings can happen and the result is not always the
nearest number to what is written (`Numeral.compose`).
-/

namespace Testbed.Json.Numeral

def digit? (b : UInt8) : Option Nat :=
  if 48 ≤ b ∧ b ≤ 57 then some (b.toNat - 48) else none

/-- The first octet after a significand is at least this. -/
def significandLimit : Nat := UInt64.size

/-- The greatest exponent that is still counted. -/
def exponentLimit : Int := 0x7fffffff

/-- A numeral without its sign: the value `significand · 10 ^ exponent`. -/
structure Parts where
  significand : Nat
  exponent : Int
deriving DecidableEq, Repr

def skipDigits : Bytes → Bytes
  | [] => []
  | b :: rest => if (digit? b).isSome then skipDigits rest else b :: rest

/-- Reads on as long as the significand stays within 64 bits; counts the digits read. -/
def extend (significand count : Nat) : Bytes → Nat × Nat × Bytes
  | [] => (significand, count, [])
  | b :: rest =>
    match digit? b with
    | some d =>
      if significand * 10 + d < significandLimit then
        extend (significand * 10 + d) (count + 1) rest
      else (significand, count, b :: rest)
    | none => (significand, count, b :: rest)

def atDigit : Bytes → Bool
  | [] => false
  | b :: _ => (digit? b).isSome

/-- The real `f · 10 ^ exponent`, or `none` when it is too large. -/
def scaleBy (f : Binary64) (exponent : Int) : Option Binary64 :=
  (Binary64.tenPow? exponent.natAbs).bind fun pow =>
    if 0 ≤ exponent then f.mul? pow else f.div? pow

/--
The real `significand · 10 ^ exponent`, or `none` when it is too large. Powers below `10 ^ -308` are
applied in steps of 308; two steps take every 64-bit significand to zero.
-/
def compose (significand : Nat) (exponent : Int) : Option Binary64 :=
  (Binary64.ofNat? significand).bind fun f =>
    if exponent.natAbs ≤ 308 then scaleBy f exponent
    else if f.isZero then some f
    else if 0 ≤ exponent then none
    else
      (scaleBy f (-308)).bind fun f =>
        if (exponent + 308).natAbs ≤ 308 then scaleBy f (exponent + 308)
        else (scaleBy f (-308)).bind fun f =>
          if (exponent + 616).natAbs ≤ 308 then scaleBy f (exponent + 616)
          else some (Binary64.zero false)

/-- The real of some parts with a sign, for a numeral that ends before `rest`. -/
def finish (neg : Bool) (p : Parts) (rest : Bytes) : Except Fault (Number × Bytes) :=
  match compose p.significand p.exponent with
  | some x => .ok (.real (if neg then x.negate else x), rest)
  | none => .error ⟨.numberTooLarge, rest.length⟩

/-- The digits of an exponent: their value, or what follows the digit that made it too large. -/
def exponentDigits (value : Int) : Bytes → Except Bytes (Int × Bytes)
  | [] => .ok (value, [])
  | b :: rest =>
    match digit? b with
    | some d =>
      if value * 10 + d ≤ exponentLimit then exponentDigits (value * 10 + d) rest
      else .error rest
    | none => .ok (value, b :: rest)

/-- A 32-bit exponent: sums beyond its range stay at the nearest end. -/
def clampExponent (e : Int) : Int := max (-exponentLimit - 1) (min exponentLimit e)

/-- Reads the exponent after its letter. -/
def exponentPart (neg : Bool) (p : Parts) (s : Bytes) : Except Fault (Number × Bytes) :=
  let (down, s) := match s with
    | 43 :: rest => (false, rest)
    | 45 :: rest => (true, rest)
    | s => (false, s)
  match s with
  | [] => .error ⟨.endInValue, 0⟩
  | b :: rest =>
    match digit? b with
    | none => .error ⟨.badNumber, rest.length⟩
    | some d =>
      match exponentDigits d rest with
      | .ok (e, rest) =>
        let exponent := if down then p.exponent - e else p.exponent + e
        finish neg { p with exponent := clampExponent exponent } rest
      | .error rest =>
        if p.significand ≠ 0 ∧ !down then .error ⟨.numberTooLarge, rest.length⟩
        else .ok (.real (Binary64.zero neg), skipDigits rest)

/-- Reads an exponent if one follows. -/
def optionalExponent (neg : Bool) (p : Parts) : Bytes → Except Fault (Number × Bytes)
  | 101 :: rest => exponentPart neg p rest
  | 69 :: rest => exponentPart neg p rest
  | s => finish neg p s

def fractionPart (neg : Bool) (p : Parts) (s : Bytes) : Except Fault (Number × Bytes) :=
  let (significand, count, rest) := extend p.significand 0 s
  if atDigit rest then
    optionalExponent neg ⟨significand, p.exponent - count⟩ (skipDigits rest)
  else if count = 0 then
    .error ⟨if rest.isEmpty then .endInValue else .badNumber, rest.length - 1⟩
  else optionalExponent neg ⟨significand, p.exponent - count⟩ rest

/-- The integer of a numeral that ends at `rest`. -/
def integer (neg : Bool) (n : Nat) (rest : Bytes) : Except Fault (Number × Bytes) :=
  if !neg then .ok (.integer n, rest)
  else if n = 0 ∨ 1 <<< 63 < n then finish neg ⟨n, 0⟩ rest
  else .ok (.integer (-n), rest)

/-- Reads what follows an integer part that fits 64 bits. -/
def afterInteger (neg : Bool) (n : Nat) : Bytes → Except Fault (Number × Bytes)
  | 46 :: rest => fractionPart neg ⟨n, 0⟩ rest
  | 101 :: rest => exponentPart neg ⟨n, 0⟩ rest
  | 69 :: rest => exponentPart neg ⟨n, 0⟩ rest
  | s => integer neg n s

/-- Reads what follows the first 64 bits of a longer integer part: its other digits scale it. -/
def afterLongInteger (neg : Bool) (n : Nat) (exponent : Int) : Bytes → Except Fault (Number × Bytes)
  | [] => finish neg ⟨n, exponent⟩ []
  | b :: rest =>
    if (digit? b).isSome then afterLongInteger neg n (exponent + 1) rest
    else if b = 46 then fractionPart neg ⟨n, exponent⟩ rest
    else optionalExponent neg ⟨n, exponent⟩ (b :: rest)

/-- Reads a numeral after its sign. -/
def read (neg : Bool) : Bytes → Except Fault (Number × Bytes)
  | [] => .error ⟨.endInValue, 0⟩
  | b :: rest =>
    match digit? b with
    | none => .error ⟨.badNumber, rest.length⟩
    | some 0 =>
      if atDigit rest then .error ⟨.badNumber, rest.length - 1⟩ else afterInteger neg 0 rest
    | some d =>
      let (n, _, rest) := extend d 0 rest
      if atDigit rest then afterLongInteger neg n 0 rest else afterInteger neg n rest

end Testbed.Json.Numeral

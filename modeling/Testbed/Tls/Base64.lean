import Testbed.Text.Utf8

/-!
# Base64

Three octets as four signs of six bits each. At the end one or two signs may stand for nothing
(`=`), so that the signs come in fours. Blanks between signs are ignored.
-/

namespace Testbed.Tls.Base64

/-- What is wrong with a text. -/
inductive Fault where
  | invalidCharacter (octet : UInt8)
  | prematurePadding
  | invalidTrailingPadding

def Fault.message : Fault → String
  | invalidCharacter octet => "InvalidCharacter(" ++ toString octet.toNat ++ ")"
  | prematurePadding => "PrematurePadding"
  | invalidTrailingPadding => "InvalidTrailingPadding"

/-- Whether an octet between signs is ignored. -/
def isBlank (b : UInt8) : Bool := (9 ≤ b && b ≤ 13) || b == 32

/-- The six bits of a sign. -/
def value? (b : UInt8) : Option Nat :=
  if 65 ≤ b ∧ b ≤ 90 then some (b.toNat - 65)
  else if 97 ≤ b ∧ b ≤ 122 then some (b.toNat - 97 + 26)
  else if 48 ≤ b ∧ b ≤ 57 then some (b.toNat - 48 + 52)
  else if b = 43 then some 62
  else if b = 47 then some 63
  else none

/-- The sign that stands for nothing. -/
def pad : UInt8 := 61

/-- Splits the signs of a text into their values and the number of pads after them. -/
def read : List UInt8 → Except Fault (List Nat × Nat)
  | [] => .ok ([], 0)
  | b :: rest =>
    match value? b with
    | some v => (read rest).map fun (vs, pads) => (v :: vs, pads)
    | none =>
      if b ≠ pad then .error (.invalidCharacter b)
      else match read rest with
        | .error f => .error f
        | .ok ([], pads) => .ok ([], pads + 1)
        | .ok (_ :: _, _) => .error .prematurePadding

/-- The octets of signs: those of each four, and what a last two or three hold. -/
def octets : List Nat → Bytes
  | a :: b :: c :: d :: rest =>
    let n := ((a * 64 + b) * 64 + c) * 64 + d
    UInt8.ofNat (n / 65536) :: UInt8.ofNat (n / 256) :: UInt8.ofNat n :: octets rest
  | [a, b, c] =>
    let n := (a * 64 + b) * 64 + c
    [UInt8.ofNat (n / 1024), UInt8.ofNat (n / 4)]
  | [a, b] => [UInt8.ofNat ((a * 64 + b) / 16)]
  | _ => []

def decode (text : Bytes) : Except Fault Bytes :=
  match read (text.filter fun b => !isBlank b) with
  | .error f => .error f
  | .ok (values, pads) =>
    if pads ≤ 2 ∧ (values.length + pads) % 4 = 0 then .ok (octets values)
    else .error .invalidTrailingPadding

/-! ## Writing -/

/-- The sign of six bits. -/
def sign (v : Nat) : UInt8 :=
  UInt8.ofNat <|
    if v < 26 then 65 + v
    else if v < 52 then 97 + (v - 26)
    else if v < 62 then 48 + (v - 52)
    else if v = 62 then 43
    else 47

/-- The sign of the six bits of a number that stand above others. -/
def signAbove (n place : Nat) : UInt8 := sign (n >>> (6 * place) % 64)

def encode : Bytes → Bytes
  | a :: b :: c :: rest =>
    let n := (a.toNat * 256 + b.toNat) * 256 + c.toNat
    signAbove n 3 :: signAbove n 2 :: signAbove n 1 :: signAbove n 0 :: encode rest
  | [a, b] =>
    let n := (a.toNat * 256 + b.toNat) * 256
    [signAbove n 3, signAbove n 2, signAbove n 1, pad]
  | [a] =>
    let n := a.toNat * 65536
    [signAbove n 3, signAbove n 2, pad, pad]
  | [] => []

end Testbed.Tls.Base64

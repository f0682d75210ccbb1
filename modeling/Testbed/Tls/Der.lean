import Testbed.Text.Utf8

/-!
# Distinguished encoding

An element is a tag, a length and that many octets. The length is written as short as possible: one
octet below 128, otherwise the number of its octets and then they.
-/

namespace Testbed.Tls.Der

/-! ## Tags -/

/-- The tag of a truth value. -/
def boolean : UInt8 := 0x01

/-- The tag of an integer. -/
def integer : UInt8 := 0x02

/-- The tag of bits. -/
def bitString : UInt8 := 0x03

/-- The tag of octets. -/
def octetString : UInt8 := 0x04

/-- The tag of nothing. -/
def null : UInt8 := 0x05

/-- The tag of a registered name. -/
def objectId : UInt8 := 0x06

/-- The tag of elements in a row. -/
def sequence : UInt8 := 0x30

/-- The tag of a field that is told by its number and holds elements. -/
def field (n : UInt8) : UInt8 := 0xA0 + n

/-- The tag of a field that is told by its number and holds octets. -/
def plainField (n : UInt8) : UInt8 := 0x80 + n

/-! ## Numbers -/

/-- The number that octets write, the first one being the highest. -/
def natOf (bytes : Bytes) : Nat := bytes.foldl (fun n b => n * 256 + b.toNat) 0

/-- A number in a given count of octets. -/
def fixedOctets : Nat → Nat → Bytes
  | 0, _ => []
  | count + 1, n => fixedOctets count (n / 256) ++ [UInt8.ofNat n]

/-- How many octets a number takes. -/
def octetCount (n : Nat) : Nat := if n = 0 then 1 else n.log2 / 8 + 1

/-! ## Elements -/

/-- An element: its tag and what it holds. -/
structure Element where
  tag : UInt8
  value : Bytes

def length? : Bytes → Option (Nat × Bytes)
  | [] => none
  | b :: rest =>
    if b < 0x80 then some (b.toNat, rest)
    else
      let count := b.toNat - 0x80
      let n := natOf (rest.take count)
      if count = 0 ∨ 4 < count ∨ rest.length < count ∨ n < 0x80 ∨ octetCount n ≠ count then none
      else some (n, rest.drop count)

def element? : Bytes → Option (Element × Bytes)
  | [] => none
  | tag :: rest =>
    if tag &&& 0x1F = 0x1F then none
    else match length? rest with
      | none => none
      | some (n, rest) =>
        if rest.length < n then none else some (⟨tag, rest.take n⟩, rest.drop n)

/-- Splits what an element with a given tag holds from octets. -/
def expect? (tag : UInt8) (bytes : Bytes) : Option (Bytes × Bytes) :=
  match element? bytes with
  | some (e, rest) => if e.tag = tag then some (e.value, rest) else none
  | none => none

/-- What an element with a given tag holds, if it is all there is. -/
def only? (tag : UInt8) (bytes : Bytes) : Option Bytes :=
  match expect? tag bytes with
  | some (value, []) => some value
  | _ => none

/-- Splits an element that may be missing. -/
def optional? (tag : UInt8) (bytes : Bytes) : Option (Option Bytes × Bytes) :=
  if bytes.head? = some tag then (expect? tag bytes).map fun (value, rest) => (some value, rest)
  else some (none, bytes)

/-- The number that an integer holds, if it is not negative and written as short as possible. -/
def natural? : Bytes → Option Nat
  | [] => none
  | [b] => if b < 0x80 then some b.toNat else none
  | a :: b :: rest =>
    if 0x80 ≤ a ∨ (a = 0 ∧ b < 0x80) then none else some (natOf (a :: b :: rest))

/-- Splits a number from octets. -/
def expectNatural? (bytes : Bytes) : Option (Nat × Bytes) := do
  let (value, rest) ← expect? integer bytes
  return (← natural? value, rest)

/-- The octets of a string of whole octets of bits. -/
def wholeBits? : Bytes → Option Bytes
  | 0 :: rest => some rest
  | _ => none

/-! ## Writing -/

def writeLength (n : Nat) : Bytes :=
  if n < 0x80 then [UInt8.ofNat n]
  else UInt8.ofNat (0x80 + octetCount n) :: fixedOctets (octetCount n) n

def write (tag : UInt8) (value : Bytes) : Bytes := tag :: writeLength value.length ++ value

def writeNatural (n : Nat) : Bytes :=
  let octets := fixedOctets (octetCount n) n
  write integer (if octets.head?.any (0x80 ≤ ·) then 0 :: octets else octets)

end Testbed.Tls.Der

/-!
# Octets and UTF-8

Bodies, header values and PEM files are runs of octets (`Bytes`); texts are `String`.

**The decoder.** `Utf8.decodeLossy` reads octets one at a time. Its state (`Pending`) is the
sequence begun but not finished: the code point so far, how many octets are still owed, and the
range the next one must lie in. An octet outside that range ends the sequence with U+FFFD and is
then read afresh, so every maximal broken sequence gives exactly one replacement character.
-/

namespace Testbed

/-- A run of octets. -/
abbrev Bytes := List UInt8

namespace Utf8

/-- The octets of a text. -/
def encode (s : String) : Bytes := s.toList.flatMap String.utf8EncodeChar

/-- A sequence of octets that has begun and is not finished. -/
structure Pending where
  /-- The bits read so far. -/
  value : Nat
  /-- How many octets are still owed, this one included. -/
  owed : Nat
  /-- The least octet that may come next. -/
  low : UInt8
  /-- The greatest octet that may come next. -/
  high : UInt8

/-- What stands for a broken sequence. -/
def replacement : Char := '\uFFFD'

/-- Reads an octet that begins a sequence: the characters it completes, and what it leaves open. -/
def begin (b : UInt8) : List Char × Option Pending :=
  let lead (bits owed : Nat) (low high : UInt8) : List Char × Option Pending :=
    ([], some ⟨bits, owed, low, high⟩)
  if b < 0x80 then ([Char.ofNat b.toNat], none)
  else if b < 0xC2 then ([replacement], none)
  else if b < 0xE0 then lead (b.toNat - 0xC0) 1 0x80 0xBF
  else if b == 0xE0 then lead 0 2 0xA0 0xBF
  else if b == 0xED then lead 0xD 2 0x80 0x9F
  else if b < 0xF0 then lead (b.toNat - 0xE0) 2 0x80 0xBF
  else if b == 0xF0 then lead 0 3 0x90 0xBF
  else if b < 0xF4 then lead (b.toNat - 0xF0) 3 0x80 0xBF
  else if b == 0xF4 then lead 4 3 0x80 0x8F
  else ([replacement], none)

def step : Option Pending → UInt8 → List Char × Option Pending
  | none, b => begin b
  | some p, b =>
    if p.low ≤ b ∧ b ≤ p.high then
      let value := p.value * 64 + (b.toNat - 0x80)
      if p.owed ≤ 1 then ([Char.ofNat value], none)
      else ([], some ⟨value, p.owed - 1, 0x80, 0xBF⟩)
    else
      let (cs, q) := begin b
      (replacement :: cs, q)

/-- Reads octets from a given state; a sequence left open at the end is broken. -/
def decodeFrom : Option Pending → Bytes → List Char
  | none, [] => []
  | some _, [] => [replacement]
  | p, b :: rest =>
    let (cs, q) := step p b
    cs ++ decodeFrom q rest

/-- The text of some octets, each maximal broken sequence read as U+FFFD. -/
def decodeLossy (bs : Bytes) : String := String.ofList (decodeFrom none bs)

/-- The text of some octets, if they are well-formed UTF-8. -/
def decode? (bs : Bytes) : Option String := String.fromUTF8? ⟨bs.toArray⟩

end Utf8

/-- The lower-case hexadecimal digits of an octet. -/
def hexOctet (b : UInt8) : List Char :=
  [Nat.digitChar (b.toNat / 16), Nat.digitChar (b.toNat % 16)]

/-- Two lower-case hexadecimal digits for each octet. -/
def hexText (bs : Bytes) : String := String.ofList (bs.flatMap hexOctet)

def hexValue? (c : Char) : Option Nat :=
  if '0' ≤ c ∧ c ≤ '9' then some (c.toNat - 48)
  else if 'a' ≤ c ∧ c ≤ 'f' then some (c.toNat - 87)
  else if 'A' ≤ c ∧ c ≤ 'F' then some (c.toNat - 55)
  else none

end Testbed

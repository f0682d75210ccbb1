import Testbed.Text.Utf8

/-!
# SipHash-1-3

The keyed hash SipHash with one round for each word and three at the end, here with both keys
zero. The octets are read as little-endian words of eight; the last word holds what is left over
and, in its highest octet, the length modulo 256.
-/

namespace Testbed.SipHash

/-- The four words of the state. -/
structure State where
  v0 : UInt64
  v1 : UInt64
  v2 : UInt64
  v3 : UInt64

/-- A word rotated left. -/
def rotl (x : UInt64) (k : UInt64) : UInt64 := (x <<< k) ||| (x >>> (64 - k))

def State.round (s : State) : State :=
  let v0 := s.v0 + s.v1
  let v1 := rotl s.v1 13 ^^^ v0
  let v0 := rotl v0 32
  let v2 := s.v2 + s.v3
  let v3 := rotl s.v3 16 ^^^ v2
  let v0 := v0 + v3
  let v3 := rotl v3 21 ^^^ v0
  let v2 := v2 + v1
  let v1 := rotl v1 17 ^^^ v2
  let v2 := rotl v2 32
  ⟨v0, v1, v2, v3⟩

/-- The state before any octet, for keys that are zero. -/
def State.start : State :=
  ⟨0x736f6d6570736575, 0x646f72616e646f6d, 0x6c7967656e657261, 0x7465646279746573⟩

/-- Takes in one word. -/
def State.word (s : State) (m : UInt64) : State :=
  let s := { s with v3 := s.v3 ^^^ m }.round
  { s with v0 := s.v0 ^^^ m }

/-- Octets as a little-endian word. -/
def wordOf (bs : Bytes) : UInt64 := bs.foldr (fun b acc => acc <<< 8 ||| b.toUInt64) 0

/-- Takes in all octets; `length` is their number in all. -/
def State.octets (length : Nat) (s : State) : Bytes → State
  | a :: b :: c :: d :: e :: f :: g :: h :: rest =>
    State.octets length (s.word (wordOf [a, b, c, d, e, f, g, h])) rest
  | rest => s.word (wordOf rest ||| (UInt64.ofNat (length % 256) <<< 56))

/-- The hash value of a state that has taken in everything. -/
def State.finish (s : State) : UInt64 :=
  let s := { s with v2 := s.v2 ^^^ 0xff }.round.round.round
  s.v0 ^^^ s.v1 ^^^ s.v2 ^^^ s.v3

def hash (bs : Bytes) : UInt64 := (State.start.octets bs.length bs).finish

end Testbed.SipHash

import Testbed.Tls.Der

/-!
# Digests

Two digests of one make, on words of 32 and of 64 bits. A message is lengthened to whole blocks of
16 words and taken in block by block: the words of a block are stretched to as many as there are
rounds, and each round turns and adds eight words. The constants are the first bits behind the point
of the square roots of the first eight primes, and of the cube roots of as many primes as there are
rounds.
-/

namespace Testbed.Tls.Digest

def primes (count : Nat) : List Nat :=
  let isPrime (n : Nat) : Bool := 2 ≤ n ∧ (List.range n).all fun d => d < 2 ∨ n % d ≠ 0
  ((List.range 500).filter isPrime).take count

/-- The greatest number whose power with an exponent is at most `n`, found bit by bit from the
highest. -/
def rootFrom (exponent n : Nat) : Nat → Nat → Nat
  | 0, root => root
  | bit + 1, root =>
    let next := root + 1 <<< bit
    rootFrom exponent n bit (if Nat.pow next exponent ≤ n then next else root)

/-- The first bits behind the point of a root, and those in front of it above them. -/
def rootBits (bits exponent n : Nat) : Nat :=
  rootFrom exponent (n <<< (bits * exponent)) (bits + 6) 0

/-- A message lengthened to whole blocks of `16 * width` octets: a single bit follows it, and its
length stands at the end in `2 * width` octets. -/
def padded (width : Nat) (message : Bytes) : Bytes :=
  let block := 16 * width
  let zeros := (2 * block - 1 - 2 * width - message.length % block) % block
  message ++ [0x80] ++ List.replicate zeros 0 ++ Der.fixedOctets (2 * width) (8 * message.length)

/-- The blocks of a message, as lists of 16 words. -/
def blocks (width : Nat) (message : Bytes) : List (List Nat) :=
  let whole := padded width message
  (List.range (whole.length / (16 * width))).map fun i =>
    (List.range 16).map fun j => Der.natOf ((whole.drop (width * (16 * i + j))).take width)

/-- The six amounts by which words are turned, each as two turns and a third turn or shift. -/
structure Turns (ω : Type) where
  stretchEarly : ω → ω
  stretchLate : ω → ω
  low : ω → ω
  high : ω → ω

section

variable {ω : Type} [Add ω] [XorOp ω] [AndOp ω] [Complement ω]

/-- The words of a block stretched by `more` words. -/
def schedule (zero : ω) (t : Turns ω) (more : Nat) (block : Array ω) : Array ω :=
  (List.range more).foldl (fun w i =>
    w.push (w.getD i zero + t.stretchEarly (w.getD (i + 1) zero) + w.getD (i + 9) zero +
      t.stretchLate (w.getD (i + 14) zero))) block

def round (t : Turns ω) (state : List ω) (word : ω) : List ω :=
  match state with
  | [a, b, c, d, e, f, g, h] =>
    let p := h + t.low e + ((e &&& f) ^^^ (~~~e &&& g)) + word
    let q := t.high a + ((a &&& b) ^^^ (a &&& c) ^^^ (b &&& c))
    [p + q, a, b, c, d + p, e, f, g]
  | _ => state

/-- The words after a block. -/
def compress (zero : ω) (t : Turns ω) (constants : List ω) (state block : List ω) : List ω :=
  let words := (schedule zero t (constants.length - 16) block.toArray).toList
  let turned := (words.zip constants).foldl (fun s (w, k) => round t s (w + k)) state
  List.zipWith (· + ·) state turned

end

/-! ## 256 bits -/

/-- A word turned right. -/
def rotate32 (n : UInt32) (w : UInt32) : UInt32 := (w >>> n) ||| (w <<< (32 - n))

/-- The turns of words of 32 bits. -/
def turns32 : Turns UInt32 where
  stretchEarly w := rotate32 7 w ^^^ rotate32 18 w ^^^ (w >>> 3)
  stretchLate w := rotate32 17 w ^^^ rotate32 19 w ^^^ (w >>> 10)
  low w := rotate32 6 w ^^^ rotate32 11 w ^^^ rotate32 25 w
  high w := rotate32 2 w ^^^ rotate32 13 w ^^^ rotate32 22 w

/-- The digest of 256 bits. -/
def sha256 (message : Bytes) : Bytes :=
  let initial := (primes 8).map fun p => UInt32.ofNat (rootBits 32 2 p)
  let constants := (primes 64).map fun p => UInt32.ofNat (rootBits 32 3 p)
  let final := (blocks 4 message).foldl (fun state block =>
    compress 0 turns32 constants state (block.map UInt32.ofNat)) initial
  final.flatMap fun w => Der.fixedOctets 4 w.toNat

/-! ## 512 bits -/

/-- A word turned right. -/
def rotate64 (n : UInt64) (w : UInt64) : UInt64 := (w >>> n) ||| (w <<< (64 - n))

/-- The turns of words of 64 bits. -/
def turns64 : Turns UInt64 where
  stretchEarly w := rotate64 1 w ^^^ rotate64 8 w ^^^ (w >>> 7)
  stretchLate w := rotate64 19 w ^^^ rotate64 61 w ^^^ (w >>> 6)
  low w := rotate64 14 w ^^^ rotate64 18 w ^^^ rotate64 41 w
  high w := rotate64 28 w ^^^ rotate64 34 w ^^^ rotate64 39 w

/-- The digest of 512 bits. -/
def sha512 (message : Bytes) : Bytes :=
  let initial := (primes 8).map fun p => UInt64.ofNat (rootBits 64 2 p)
  let constants := (primes 80).map fun p => UInt64.ofNat (rootBits 64 3 p)
  let final := (blocks 8 message).foldl (fun state block =>
    compress 0 turns64 constants state (block.map UInt64.ofNat)) initial
  final.flatMap fun w => Der.fixedOctets 8 w.toNat

end Testbed.Tls.Digest

import Testbed.Text.Utf8

/-!
# Framing of bodies

How a body is told from what follows it: by its length, or by chunks.

**Chunks.** Each has its length in hexadecimal on a line of its own, then its octets, then an empty
line; a chunk of length zero and perhaps trailing fields end the body. `encodeChunks` writes a body
and `decodeChunks?` reads one. The reader passes blanks and extensions behind a length, and passes
trailing fields.
-/

namespace Testbed.Http

/-- The length that a header value gives. -/
def lengthOf (v : Bytes) : Option Nat :=
  if v.isEmpty then none
  else v.foldl (fun acc b => acc.bind fun n =>
    if 48 ≤ b ∧ b ≤ 57 then some (n * 10 + (b.toNat - 48)) else none) (some 0)

/-- Whether a transfer coding ends with chunks. -/
def isChunked (v : Bytes) : Bool :=
  let text := (Utf8.decodeLossy v).toList.map Char.toLower
  let last := ((text.reverse.takeWhile (· != ',')).reverse).filter fun c => !(c == ' ' || c == '\t')
  last == "chunked".toList

/-- The transfer codings of a body in chunks: those that a response names, `chunked` being the
last. -/
def codings (own : List Bytes) : Bytes :=
  let chunked := Utf8.encode "chunked"
  let all := match own.getLast? with
    | some last => if isChunked last then own else own ++ [chunked]
    | none => [chunked]
  (all.intersperse (Utf8.encode ", ")).flatten

def lineEnd : Bytes := [13, 10]

def encodeChunk (data : Bytes) : Bytes :=
  ((Nat.toDigits 16 data.length).flatMap String.utf8EncodeChar) ++ lineEnd ++ data ++ lineEnd

/-- A body of chunks, which must not be empty. -/
def encodeChunks (chunks : List Bytes) : Bytes :=
  chunks.flatMap encodeChunk ++ encodeChunk []

/-- The number at the front in hexadecimal, if there is one, and what follows it. -/
def readHex (found : Option Nat) : Bytes → Option (Nat × Bytes)
  | [] => none
  | b :: rest =>
    match hexValue? (Char.ofNat b.toNat) with
    | some d => readHex (some (found.getD 0 * 16 + d)) rest
    | none => found.map fun n => (n, b :: rest)

def skipBlanks : Bytes → Bytes
  | b :: rest => if b == 32 || b == 9 then skipBlanks rest else b :: rest
  | [] => []

/-- Passes an extension up to the end of its line. -/
def skipExtension : Bytes → Option Bytes
  | 13 :: 10 :: rest => some rest
  | b :: rest => if b == 10 || b == 13 then none else skipExtension rest
  | [] => none

/-- The length of a chunk, and what follows its line. -/
def readLength (bs : Bytes) : Option (Nat × Bytes) :=
  (readHex none bs).bind fun (n, rest) =>
    match skipBlanks rest with
    | 13 :: 10 :: rest => some (n, rest)
    | 59 :: rest => (skipExtension rest).map fun rest => (n, rest)
    | _ => none

/-- Whether trailing fields end with an empty line; `fresh` says that a line begins. -/
def endsTrailer (fresh : Bool) : Bytes → Bool
  | 13 :: 10 :: rest => fresh || endsTrailer true rest
  | b :: rest => if b == 10 || b == 13 then false else endsTrailer false rest
  | [] => false

/-- The octets of some chunks; `fuel` bounds their number. -/
def decodeFor : Nat → Bytes → Option Bytes
  | 0, _ => none
  | fuel + 1, bs =>
    (readLength bs).bind fun (n, rest) =>
      if n = 0 then if endsTrailer true rest then some [] else none
      else if rest.length < n then none
      else
        match rest.drop n with
        | 13 :: 10 :: more => (decodeFor fuel more).map (rest.take n ++ ·)
        | _ => none

/-- The octets of a body in chunks, unless it is broken. -/
def decodeChunks? (bs : Bytes) : Option Bytes := decodeFor bs.length bs

end Testbed.Http

import Testbed.Text.Utf8

/-!
# Internet addresses in hosts

**Version 4.** A host ends in a number when its last label, not counting one empty label at the end,
is all digits or a hexadecimal number; it must then be an address. The parts may be decimal, octal
(after `0`) or hexadecimal (after `0x`), there may be fewer than four of them, and the last one
fills the octets that are missing.

**Version 6.** Eight pieces of up to four hexadecimal digits; one run of zero pieces may be written
`::`, and the last two pieces may be written as four decimal octets. The text of an address
(`ipv6Text`) writes the first longest run of two or more zero pieces as `::`.
-/

namespace Testbed.Url

/-- The parts of a text between the characters that satisfy a test. -/
def splitAt (p : Char → Bool) : List Char → List (List Char)
  | [] => [[]]
  | c :: rest =>
    if p c then [] :: splitAt p rest
    else match splitAt p rest with
      | part :: parts => (c :: part) :: parts
      | [] => [[c]]

/-! ## Version 4 -/

/-- The number that digits of a base write, if all of them are such digits. -/
def numberIn (base : Nat) (cs : List Char) : Option Nat :=
  cs.foldl (fun acc c => acc.bind fun n =>
    (hexValue? c).bind fun d => if d < base then some (n * base + d) else none) (some 0)

def ipv4Number : List Char → Option Nat
  | [] => none
  | '0' :: 'x' :: rest => numberIn 16 rest
  | '0' :: 'X' :: rest => numberIn 16 rest
  | '0' :: c :: rest => numberIn 8 (c :: rest)
  | cs => numberIn 10 cs

/-- The labels of a host, without one empty label at the end. -/
def dropEmptyLast (labels : List (List Char)) : List (List Char) :=
  if labels.getLast? = some [] ∧ labels.length ≠ 1 then labels.dropLast else labels

/-- Whether a host must be an address because of its last label. -/
def endsInNumber (host : List Char) : Bool :=
  match (dropEmptyLast (splitAt (· == '.') host)).getLast? with
  | some last => (!last.isEmpty && last.all Char.isDigit) || (ipv4Number last).isSome
  | none => false

/-- The address that the numbers of its parts make. -/
def ipv4OfNumbers (numbers : List Nat) : Option Nat :=
  match numbers.reverse with
  | [] => none
  | last :: front =>
    if 1 <<< (8 * (4 - front.length)) ≤ last ∨ front.any (255 < ·) then none
    else some (front.reverse.zipIdx.foldl (fun acc (n, i) => acc + n <<< (8 * (3 - i))) last)

/-- The address that a host is, as a number of 32 bits. -/
def ipv4Address (host : List Char) : Option Nat :=
  let parts := dropEmptyLast (splitAt (· == '.') host)
  if 4 < parts.length then none
  else (parts.mapM ipv4Number).bind ipv4OfNumbers

def ipv4Text (a : Nat) : String :=
  ".".intercalate ([3, 2, 1, 0].map fun i => toString (a >>> (8 * i) % 256))

/-! ## Version 6 -/

/-- A piece of up to four hexadecimal digits. -/
def ipv6Piece (cs : List Char) : Option Nat :=
  if cs.isEmpty ∨ 4 < cs.length then none else numberIn 16 cs

/-- An octet in decimal, without leading zeros. -/
def decimalOctet (cs : List Char) : Option Nat :=
  if cs.isEmpty ∨ 3 < cs.length ∨ (cs.head? = some '0' ∧ cs.length ≠ 1) then none
  else (numberIn 10 cs).bind fun n => if n ≤ 255 then some n else none

/-- Two pieces written as four decimal octets. -/
def ipv4Pieces (cs : List Char) : Option (List Nat) :=
  match (splitAt (· == '.') cs).mapM decimalOctet with
  | some [a, b, c, d] => some [a * 256 + b, c * 256 + d]
  | _ => none

/-- Pieces of which the last two may be decimal octets. -/
def ipv6Pieces : List (List Char) → Option (List Nat)
  | [] => some []
  | [last] => if last.contains '.' then ipv4Pieces last else (ipv6Piece last).map ([·])
  | part :: rest =>
    (ipv6Piece part).bind fun n => (ipv6Pieces rest).map (n :: ·)

/-- The pieces of a text that may be empty. -/
def ipv6Half (final : Bool) (cs : List Char) : Option (List Nat) :=
  if cs.isEmpty then some []
  else
    let parts := splitAt (· == ':') cs
    if final then ipv6Pieces parts else parts.mapM ipv6Piece

/-- A text before and behind its first double colon. -/
def splitDoubleColon : List Char → Option (List Char × List Char)
  | ':' :: ':' :: rest => some ([], rest)
  | c :: rest => (splitDoubleColon rest).map fun (a, b) => (c :: a, b)
  | [] => none

/-- The eight pieces of an address. -/
def ipv6Address (cs : List Char) : Option (List Nat) :=
  match splitDoubleColon cs with
  | some (left, right) => do
    let left ← ipv6Half false left
    let right ← ipv6Half true right
    if 7 < left.length + right.length then none
    else some (left ++ List.replicate (8 - left.length - right.length) 0 ++ right)
  | none => do
    let pieces ← ipv6Half true cs
    if pieces.length = 8 then some pieces else none

def zeroRun : List Nat → Nat
  | 0 :: rest => zeroRun rest + 1
  | _ => 0

/-- Where the first longest run of zeros starts, and its length. -/
def longestZeroRun (pieces : List Nat) : Nat × Nat :=
  (List.range pieces.length).foldl
    (fun best i =>
      let n := zeroRun (pieces.drop i)
      if best.2 < n then (i, n) else best) (0, 0)

/-- Pieces in hexadecimal, separated by colons. -/
def piecesText (pieces : List Nat) : String :=
  ":".intercalate (pieces.map fun n => String.ofList (Nat.toDigits 16 n))

def ipv6Text (pieces : List Nat) : String :=
  let (start, n) := longestZeroRun pieces
  if n < 2 then piecesText pieces
  else piecesText (pieces.take start) ++ "::" ++ piecesText (pieces.drop (start + n))

end Testbed.Url

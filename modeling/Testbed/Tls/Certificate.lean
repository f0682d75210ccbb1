import Testbed.Tls.Der

/-!
# Certificates

Of a certificate only the public key counts here. It is found by reading the whole certificate,
which must be of version 3, name the same algorithm inside and beside what is signed, and hold no
extension that is critical and unknown, or known and given twice.
-/

namespace Testbed.Tls.Certificate

inductive Fault where
  | badEncoding
  | unsupportedVersion
  | algorithmMismatch
  | criticalExtension
  | repeatedExtension
  deriving DecidableEq

def Fault.message : Fault → String
  | badEncoding => "BadEncoding"
  | unsupportedVersion => "Other(OtherError(UnsupportedCertVersion))"
  | algorithmMismatch => "Other(OtherError(SignatureAlgorithmMismatch))"
  | criticalExtension => "Other(OtherError(UnsupportedCriticalExtension))"
  | repeatedExtension => "Other(OtherError(ExtensionValueInvalid))"

/-- Splits what an element holds from octets. -/
def expect (tag : UInt8) (bytes : Bytes) : Except Fault (Bytes × Bytes) :=
  match Der.expect? tag bytes with
  | some split => .ok split
  | none => .error .badEncoding

/-- Refuses octets that are left over. -/
def finished (bytes : Bytes) : Except Fault Unit :=
  if bytes.isEmpty then .ok () else .error .badEncoding

/-- Splits the version from what is signed: it must be the third, which is written as 2. -/
def version (bytes : Bytes) : Except Fault Bytes :=
  match Der.expect? (Der.field 0) bytes with
  | none => .error .unsupportedVersion
  | some (value, rest) =>
    match Der.expectNatural? value with
    | none => .error .badEncoding
    | some (n, after) =>
      if 255 < n then .error .badEncoding
      else if n ≠ 2 ∨ ¬ after.isEmpty then .error .unsupportedVersion
      else .ok rest

/-- The known extensions: key usage, alternative names, basic constraints, name constraints, places
of revocation lists, extended key usage. -/
def knownExtensions : List UInt8 := [15, 17, 19, 30, 31, 37]

def known? (id : Bytes) : Option UInt8 :=
  match id with
  | [0x55, 0x1D, n] => if knownExtensions.contains n then some n else none
  | _ => none

/-- Splits whether an extension is critical, which is not if it is not said. -/
def critical (bytes : Bytes) : Except Fault (Bool × Bytes) :=
  match Der.optional? Der.boolean bytes with
  | some (none, rest) => .ok (false, rest)
  | some (some [0xFF], rest) => .ok (true, rest)
  | some (some [0], rest) => .ok (false, rest)
  | _ => .error .badEncoding

/-- Reads an extension; the numbers of the known ones before it are given, and with it returned. -/
def extension (seen : List UInt8) (bytes : Bytes) : Except Fault (List UInt8) := do
  let (id, rest) ← expect Der.objectId bytes
  let (isCritical, rest) ← critical rest
  let (value, rest) ← expect Der.octetString rest
  finished rest
  match known? id with
  | none => if isCritical then throw .criticalExtension else return seen
  | some n =>
    if seen.contains n then throw .repeatedExtension
    if n ≠ 15 then
      let (_, after) ← expect Der.sequence value
      finished after
    return n :: seen

/-- Reads extensions; `fuel` bounds their number. -/
def extensions : Nat → List UInt8 → Bytes → Except Fault Unit
  | 0, _, bytes => finished bytes
  | fuel + 1, seen, bytes =>
    if bytes.isEmpty then .ok ()
    else do
      let (one, rest) ← expect Der.sequence bytes
      let seen ← extension seen one
      extensions fuel seen rest

/-- The largest length of what a certificate holds. -/
def lengthLimit : Nat := 0xFFFF

/-- The description of the public key in a certificate. -/
def publicKeyInfo (bytes : Bytes) : Except Fault Bytes := do
  let (whole, rest) ← expect Der.sequence bytes
  finished rest
  if lengthLimit ≤ whole.length then throw .badEncoding
  let (signed, rest) ← expect Der.sequence whole
  let (algorithm, rest) ← expect Der.sequence rest
  let (signature, rest) ← expect Der.bitString rest
  if (Der.wholeBits? signature).isNone then throw .badEncoding
  finished rest
  let rest ← version signed
  let (_, rest) ← expect Der.integer rest
  let (inner, rest) ← expect Der.sequence rest
  if inner ≠ algorithm then throw .algorithmMismatch
  let (_, rest) ← expect Der.sequence rest
  let (_, rest) ← expect Der.sequence rest
  let (_, rest) ← expect Der.sequence rest
  let (key, rest) ← expect Der.sequence rest
  if !rest.isEmpty then
    let (field, after) ← expect (Der.field 3) rest
    let (list, inside) ← expect Der.sequence field
    extensions list.length [] list
    finished inside
    finished after
  return Der.write Der.sequence key

end Testbed.Tls.Certificate

import Testbed.Tls.Identity

/-!
# Made identities

An identity for `localhost` and `127.0.0.1` with a key on the curve of 256 bits, whose certificate
is signed with the same key. All that is random in it comes from outside (`Entropy`).
-/

namespace Testbed.Tls

/-- The random numbers of an identity. -/
structure Entropy where
  /-- The private number of the key. -/
  secret : Nat
  /-- The number that hides the private one in the signature. -/
  nonce : Nat
  serial : Nat

namespace SelfSigned

/-- The numbers below the order of the curve, without zero. -/
def inOrder (n : Nat) : Nat := n % (Curve.p256.order - 1) + 1

/-- The signature of a message: two numbers. -/
def sign (secret nonce : Nat) (message : Bytes) : Bytes :=
  let order := Curve.p256.order
  let r := match Curve.p256.publicPoint nonce with
    | some (x, _) => x % order
    | none => 0
  let s := inverseMod nonce order * (Der.natOf (Digest.sha256 message) + r * secret) % order
  Der.write Der.sequence (Der.writeNatural r ++ Der.writeNatural s)

/-- The name of the algorithm of the signature. -/
def algorithm : Bytes :=
  Der.write Der.sequence
    (Der.write Der.objectId [0x2a, 0x86, 0x48, 0xce, 0x3d, 0x04, 0x03, 0x02])

/-- The name of who signs and of who is certified. -/
def name : Bytes :=
  let part := Der.write Der.objectId [0x55, 0x04, 0x03] ++ Der.write 0x0C (Utf8.encode "localhost")
  Der.write Der.sequence (Der.write 0x31 (Der.write Der.sequence part))

/-- The times between which the certificate holds. -/
def validity : Bytes :=
  Der.write Der.sequence
    (Der.write 0x17 (Utf8.encode "750101000000Z") ++ Der.write 0x18 (Utf8.encode "40960101000000Z"))

/-- The names that a client may use. -/
def alternativeNames : Bytes :=
  let names := Der.write (Der.plainField 2) (Utf8.encode "localhost") ++
    Der.write (Der.plainField 7) [127, 0, 0, 1]
  Der.write Der.sequence
    (Der.write Der.objectId [0x55, 0x1D, 17] ++
      Der.write Der.octetString (Der.write Der.sequence names))

/-- The description of the public half of a private number. -/
def publicInfo (secret : Nat) : Bytes :=
  PrivateKey.describe
    (Der.write Der.objectId PrivateKey.curveName ++ Der.write Der.objectId Curve.p256.name)
    (Curve.p256.encode (Curve.p256.publicPoint secret))

/-- The part of a certificate that is signed. -/
def signedPart (serial : Nat) (info : Bytes) : Bytes :=
  Der.write Der.sequence
    (Der.write (Der.field 0) (Der.writeNatural 2) ++ Der.writeNatural serial ++ algorithm ++ name ++
      validity ++ name ++ info ++
      Der.write (Der.field 3) (Der.write Der.sequence alternativeNames))

def certificate (e : Entropy) : Bytes :=
  let secret := inOrder e.secret
  let part := signedPart e.serial (publicInfo secret)
  Der.write Der.sequence
    (part ++ algorithm ++ Der.write Der.bitString (0 :: sign secret (inOrder e.nonce) part))

/-- The private key in the general form. -/
def privateKey (e : Entropy) : Bytes :=
  let secret := inOrder e.secret
  let key := Der.write Der.sequence (Der.writeNatural 1 ++
    Der.write Der.octetString (Der.fixedOctets Curve.p256.width secret) ++
    Der.write (Der.field 1)
      (Der.write Der.bitString (0 :: Curve.p256.encode (Curve.p256.publicPoint secret))))
  let named := Der.write Der.objectId PrivateKey.curveName ++ Der.write Der.objectId Curve.p256.name
  Der.write Der.sequence
    (Der.writeNatural 0 ++ Der.write Der.sequence named ++ Der.write Der.octetString key)

end SelfSigned

/-- An identity made from random numbers. -/
def Identity.selfSigned (e : Entropy) : Identity :=
  let certificate := SelfSigned.certificate e
  let key := SelfSigned.privateKey e
  { certificatePem := Pem.write .certificate certificate
    privateKeyPem := Pem.write .privateKey key
    certificate
    keyForm := .general
    key }

end Testbed.Tls

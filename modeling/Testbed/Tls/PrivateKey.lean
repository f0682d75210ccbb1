import Testbed.Tls.Curve
import Testbed.Tls.Digest

/-!
# Private keys

A private key comes in one of three forms: a general one that names its algorithm, one for RSA and
one for curves. Of a key only the description of its public half counts (`publicKeyInfo?`), in the
form in which certificates have it. A key that is not consistent in itself is none.
-/

namespace Testbed.Tls

/-- The forms of private keys. -/
inductive KeyForm where
  | general
  | rsa
  | curve

namespace PrivateKey

/-- The description of a public key: its algorithm and its bits. -/
def describe (algorithm key : Bytes) : Bytes :=
  Der.write Der.sequence (Der.write Der.sequence algorithm ++ Der.write Der.bitString (0 :: key))

/-! ## The general form -/

/-- A key in the general form. -/
structure General where
  /-- The name of the algorithm. -/
  name : Bytes
  /-- What is said of the algorithm beside its name. -/
  params : Bytes
  /-- The key in a form of the algorithm. -/
  key : Bytes
  /-- The public half, if it is given. -/
  publicHalf : Option Bytes

/-- A key in the general form. -/
def general? (bytes : Bytes) : Option General := do
  let whole ← Der.only? Der.sequence bytes
  let (version, rest) ← Der.expectNatural? whole
  if 1 < version then none
  let (algorithm, rest) ← Der.expect? Der.sequence rest
  let (name, params) ← Der.expect? Der.objectId algorithm
  let (key, rest) ← Der.expect? Der.octetString rest
  let (_, rest) ← Der.optional? (Der.field 0) rest
  let (given, rest) ← Der.optional? (Der.plainField 1) rest
  if ¬ rest.isEmpty ∨ (version = 0 ∧ given.isSome) then none
  let publicHalf ← match given with
    | none => some none
    | some bits => (Der.wholeBits? bits).map some
  return { name, params, key, publicHalf }

/-! ## RSA -/

def rsaName : Bytes := [0x2a, 0x86, 0x48, 0x86, 0xf7, 0x0d, 0x01, 0x01, 0x01]

/-- The parameters of RSA: nothing, said. -/
def rsaParams : Bytes := Der.write Der.null []

/-- Splits numbers from octets that hold nothing else. -/
def naturals? : Nat → Bytes → Option (List Nat)
  | 0, rest => if rest.isEmpty then some [] else none
  | count + 1, bytes => do
    let (n, rest) ← Der.expectNatural? bytes
    return n :: (← naturals? count rest)

/-- Whether two numbers are inverse to each other modulo a third. -/
def areInverse (a b modulus : Nat) : Bool := a * b % modulus == 1 % modulus

def bitCount (n : Nat) : Nat := if n = 0 then 0 else n.log2 + 1

/-- The description of the public half of an RSA key, whose modulus has 2048 to 8192 bits. -/
def rsaInfo? (bytes : Bytes) : Option Bytes := do
  let whole ← Der.only? Der.sequence bytes
  match ← naturals? 9 whole with
  | [version, n, e, d, p, q, dp, dq, qi] =>
    let bits := bitCount n
    if version = 0 ∧ 2048 ≤ bits ∧ bits ≤ 8192 ∧ e % 2 = 1 ∧ 3 ≤ e ∧ bitCount e ≤ 33 ∧ n % 2 = 1 ∧
        n = p * q ∧ 1 < p ∧ 1 < q ∧ d < n ∧ areInverse d e (p - 1) ∧ areInverse d e (q - 1) ∧
        areInverse dp e (p - 1) ∧ areInverse dq e (q - 1) ∧ areInverse qi q p then
      some (describe (Der.write Der.objectId rsaName ++ rsaParams)
        (Der.write Der.sequence (Der.writeNatural n ++ Der.writeNatural e)))
    else none
  | _ => none

/-! ## Curves in short form -/

/-- The name of the algorithms on curves in short form. -/
def curveName : Bytes := [0x2a, 0x86, 0x48, 0xce, 0x3d, 0x02, 0x01]

/-- The curve that parameters name. -/
def curveOf? (params : Bytes) : Option Curve := do
  let name ← Der.only? Der.objectId params
  Curve.all.find? (·.name = name)

/-- The curve of a key, which the key may name itself and which must then be the one known
before. -/
def agreed? (known : Option Curve) (named : Option Bytes) : Option Curve :=
  match known, named with
  | none, none => none
  | some c, none => some c
  | none, some params => curveOf? params
  | some c, some params =>
    match curveOf? params with
    | some d => if d.name = c.name then some c else none
    | none => none

/-- The description of the public half of a key on a curve. -/
def curveKeyInfo? (known : Option Curve) (bytes : Bytes) : Option Bytes := do
  let whole ← Der.only? Der.sequence bytes
  let (version, rest) ← Der.expectNatural? whole
  if version ≠ 1 then none
  let (secret, rest) ← Der.expect? Der.octetString rest
  let (params, rest) ← Der.optional? (Der.field 0) rest
  let c ← agreed? known params
  let (given, rest) ← Der.optional? (Der.field 1) rest
  if ¬ rest.isEmpty then none
  let n := Der.natOf secret
  if n = 0 ∨ c.order ≤ n then none
  let point := c.publicPoint n
  let consistent ← match given with
    | none => some true
    | some bits => do
      let octets ← Der.wholeBits? (← Der.only? Der.bitString bits)
      some (octets == c.encode point || octets == c.encodeShort point)
  if ¬ consistent then none
  return describe (Der.write Der.objectId curveName ++ Der.write Der.objectId c.name) (c.encode point)

/-! ## The twisted curve -/

/-- The name of the algorithm on the twisted curve. -/
def twistedName : Bytes := [0x2b, 0x65, 0x70]

/-- The public half of 32 secret octets. -/
def twistedPublic (secret : Bytes) : Bytes :=
  let n := Twisted.clamp (Der.natOf ((Digest.sha512 secret).take 32).reverse)
  Twisted.encode (multiple Twisted.zero Twisted.add Twisted.base 256 n)

/-- The description of the public half of a key on the twisted curve. -/
def twistedInfo? (g : General) : Option Bytes := do
  if g.name ≠ twistedName ∨ ¬ g.params.isEmpty then none
  let secret ← Der.only? Der.octetString g.key
  if secret.length ≠ 32 then none
  let half := twistedPublic secret
  if (g.publicHalf.map (· != half)).getD false then none
  return describe (Der.write Der.objectId twistedName) half

/-! ## Any key -/

/-- The description of the public half of a key in the general form. -/
def generalInfo? (g : General) : Option Bytes :=
  if g.name = rsaName then if g.params = rsaParams then rsaInfo? g.key else none
  else if g.name = curveName then (curveOf? g.params).bind fun c => curveKeyInfo? (some c) g.key
  else twistedInfo? g

/-- The description of the public half of a key. A key on a curve may be in the general form too
when it is said to be in the form for curves. -/
def publicKeyInfo? (form : KeyForm) (bytes : Bytes) : Option Bytes :=
  match form with
  | .rsa => rsaInfo? bytes
  | .general => (general? bytes).bind generalInfo?
  | .curve =>
    match general? bytes with
    | some g =>
      if g.name = curveName then (curveOf? g.params).bind fun c => curveKeyInfo? (some c) g.key
      else none
    | none =>
      -- The curve is the one named in the key, or else the first one that the number fits.
      Curve.all.findSome? fun c => curveKeyInfo? (some c) bytes

end PrivateKey
end Testbed.Tls

import Testbed.Tls.Der

/-!
# Curves

The public key of a private number is a multiple of a fixed point of a curve.

**Curves in short form** have the equation `y² = x³ − 3x + b` modulo a prime. **The twisted curve**
has `−x² + y² = 1 + dx²y²`; its points are added by one formula without exceptions.
-/

namespace Testbed.Tls

/-- A power modulo a number: the exponent is halved, and `fuel` bounds the halvings. -/
def powMod (base modulus : Nat) : Nat → Nat → Nat
  | 0, _ => 1 % modulus
  | fuel + 1, exponent =>
    if exponent = 0 then 1 % modulus
    else
      let half := powMod base modulus fuel (exponent / 2)
      let square := half * half % modulus
      if exponent % 2 = 1 then square * base % modulus else square

/-- The inverse of a number modulo a prime. -/
def inverseMod (n prime : Nat) : Nat := powMod (n % prime) prime (prime.log2 + 1) (prime - 2)

/-- A multiple in a group, by doubling and adding; `fuel` bounds the doublings. -/
def multiple {α : Type} (zero : α) (add : α → α → α) (a : α) : Nat → Nat → α
  | 0, _ => zero
  | fuel + 1, n =>
    if n = 0 then zero
    else
      let half := multiple zero add a fuel (n / 2)
      let twice := add half half
      if n % 2 = 1 then add twice a else twice

/-! ## Short form -/

/-- A curve `y² = x³ − 3x + b` with a point of prime order. -/
structure Curve where
  prime : Nat
  b : Nat
  order : Nat
  baseX : Nat
  baseY : Nat
  /-- The octets of a coordinate. -/
  width : Nat
  /-- The name of the curve as an object. -/
  name : Bytes

namespace Curve

/-- A point, or none for the point at infinity. -/
abbrev Point := Option (Nat × Nat)

/-- The point where a line of a given slope through two points meets the curve again, mirrored. -/
def third (c : Curve) (slope x₁ y₁ x₂ : Nat) : Point :=
  let p := c.prime
  let x := (slope * slope + 2 * p - x₁ - x₂) % p
  some (x, (slope * (x₁ + p - x) + p - y₁) % p)

def add (c : Curve) (a b : Point) : Point :=
  match a, b with
  | none, q => q
  | q, none => q
  | some (x₁, y₁), some (x₂, y₂) =>
    let p := c.prime
    if x₁ ≠ x₂ then c.third ((y₂ + p - y₁) * inverseMod (x₂ + p - x₁) p % p) x₁ y₁ x₂
    else if y₁ = y₂ ∧ y₁ ≠ 0 then
      c.third ((3 * x₁ * x₁ + (p - 3)) * inverseMod (2 * y₁) p % p) x₁ y₁ x₂
    else none

/-- The public point of a private number. -/
def publicPoint (c : Curve) (secret : Nat) : Point :=
  multiple none c.add (some (c.baseX, c.baseY)) (secret.log2 + 1) secret

/-- A point as octets: both coordinates after a mark. -/
def encode (c : Curve) : Point → Bytes
  | none => [0]
  | some (x, y) => 4 :: (Der.fixedOctets c.width x ++ Der.fixedOctets c.width y)

/-- A point as octets: one coordinate after a mark that tells the other one. -/
def encodeShort (c : Curve) : Point → Bytes
  | none => [0]
  | some (x, y) => (if y % 2 = 0 then 2 else 3) :: Der.fixedOctets c.width x

def p256 : Curve where
  prime := 0xffffffff00000001000000000000000000000000ffffffffffffffffffffffff
  b := 0x5ac635d8aa3a93e7b3ebbd55769886bc651d06b0cc53b0f63bce3c3e27d2604b
  order := 0xffffffff00000000ffffffffffffffffbce6faada7179e84f3b9cac2fc632551
  baseX := 0x6b17d1f2e12c4247f8bce6e563a440f277037d812deb33a0f4a13945d898c296
  baseY := 0x4fe342e2fe1a7f9b8ee7eb4a7c0f9e162bce33576b315ececbb6406837bf51f5
  width := 32
  name := [0x2a, 0x86, 0x48, 0xce, 0x3d, 0x03, 0x01, 0x07]

def p384 : Curve where
  prime := 0xfffffffffffffffffffffffffffffffffffffffffffffffffffffffffffffffeffffffff0000000000000000ffffffff
  b := 0xb3312fa7e23ee7e4988e056be3f82d19181d9c6efe8141120314088f5013875ac656398d8a2ed19d2a85c8edd3ec2aef
  order := 0xffffffffffffffffffffffffffffffffffffffffffffffffc7634d81f4372ddf581a0db248b0a77aecec196accc52973
  baseX := 0xaa87ca22be8b05378eb1c71ef320ad746e1d3b628ba79b9859f741e082542a385502f25dbf55296c3a545e3872760ab7
  baseY := 0x3617de4a96262c6f5d9e98bf9292dc29f8f41dbd289a147ce9da3113b5f0b8c00a60b1ce1d7e819d7a431d7c90ea0e5f
  width := 48
  name := [0x2b, 0x81, 0x04, 0x00, 0x22]

def p521 : Curve where
  prime := 1 <<< 521 - 1
  b := 0x51953eb9618e1c9a1f929a21a0b68540eea2da725b99b315f3b8b489918ef109e156193951ec7e937b1652c0bd3bb1bf073573df883d2c34f1ef451fd46b503f00
  order := 0x1fffffffffffffffffffffffffffffffffffffffffffffffffffffffffffffffffa51868783bf2f966b7fcc0148f709a5d03bb5c9b8899c47aebb6fb71e91386409
  baseX := 0xc6858e06b70404e9cd9e3ecb662395b4429c648139053fb521f828af606b4d3dbaa14b5e77efe75928fe1dc127a2ffa8de3348b3c1856a429bf97e7e31c2e5bd66
  baseY := 0x11839296a789a3bc0045c8a5fb42c7d1bd998f54449579b446817afbd17273e662c97ee72995ef42640c550b9013fad0761353c7086a272c24088be94769fd16650
  width := 66
  name := [0x2b, 0x81, 0x04, 0x00, 0x23]

/-- The curves in short form that keys can be on, in the order in which they are tried. -/
def all : List Curve := [p256, p384, p521]

end Curve

/-! ## The twisted curve -/

namespace Twisted

def prime : Nat := 1 <<< 255 - 19

/-- The factor `d` of the curve. -/
def factor : Nat := (prime - 121665) * inverseMod 121666 prime % prime

/-- A point as the quotients `x / z` and `y / z`, with `t` such that `t / z` is their product. -/
structure Point where
  x : Nat
  y : Nat
  z : Nat
  t : Nat

/-- The neutral point. -/
def zero : Point := ⟨0, 1, 1, 0⟩

def base : Point :=
  let x := 0x216936d3cd6e53fec0a4e231fdd6dc5c692cc7609525a7b2c9562d608f25d51a
  let y := 0x6666666666666666666666666666666666666666666666666666666666666658
  ⟨x, y, 1, x * y % prime⟩

def add (p q : Point) : Point :=
  let a := (p.y + prime - p.x) * (q.y + prime - q.x) % prime
  let b := (p.y + p.x) * (q.y + q.x) % prime
  let c := 2 * p.t * q.t * factor % prime
  let d := 2 * p.z * q.z % prime
  let e := b + prime - a
  let f := d + prime - c
  let g := d + c
  let h := b + a
  ⟨e * f % prime, g * h % prime, f * g % prime, e * h % prime⟩

/-- A point as 32 octets, the lowest first: `y`, and the last bit of `x` on top. -/
def encode (p : Point) : Bytes :=
  let i := inverseMod p.z prime
  let x := p.x * i % prime
  let y := p.y * i % prime
  (Der.fixedOctets 32 (y + (x % 2) <<< 255)).reverse

/-- A number of 32 octets as a multiplier: a multiple of 8 with its highest bit at 254. -/
def clamp (n : Nat) : Nat := n % 1 <<< 254 / 8 * 8 + 1 <<< 254

end Twisted
end Testbed.Tls

import Targeting.Crypto.Modular
import Targeting.Crypto.Sha2

/-!
Signatures by multiples of a point on a curve. The points of the curve y² = x³ - 3x + b modulo a
prime, together with one point beyond them all, form a group in which it is hard to tell which
multiple of another point a point is.
-/

namespace Targeting.Crypto

open Number

structure Curve where
  name : String
  bits : Nat
  prime : Nat
  b : Nat
  base : Nat × Nat
  /-- The multiple of the base that is the point beyond. -/
  order : Nat
  deriving DecidableEq, Repr

namespace Curve

def p256 : Curve where
  name := "secp256r1"
  bits := 256
  prime := twoPow 256 - twoPow 224 + twoPow 192 + twoPow 96 - 1
  b := 0x5AC635D8AA3A93E7B3EBBD55769886BC651D06B0CC53B0F63BCE3C3E27D2604B
  base :=
    (0x6B17D1F2E12C4247F8BCE6E563A440F277037D812DEB33A0F4A13945D898C296,
      0x4FE342E2FE1A7F9B8EE7EB4A7C0F9E162BCE33576B315ECECBB6406837BF51F5)
  order := 0xFFFFFFFF00000000FFFFFFFFFFFFFFFFBCE6FAADA7179E84F3B9CAC2FC632551

/-- A number of two parts, the lower one of 256 bits. -/
def joined (high low : Nat) : Nat := high * twoPow 256 + low

def p384 : Curve where
  name := "secp384r1"
  bits := 384
  prime := twoPow 384 - twoPow 128 - twoPow 96 + twoPow 32 - 1
  b :=
    joined 0xB3312FA7E23EE7E4988E056BE3F82D19
      0x181D9C6EFE8141120314088F5013875AC656398D8A2ED19D2A85C8EDD3EC2AEF
  base :=
    (joined 0xAA87CA22BE8B05378EB1C71EF320AD74
        0x6E1D3B628BA79B9859F741E082542A385502F25DBF55296C3A545E3872760AB7,
      joined 0x3617DE4A96262C6F5D9E98BF9292DC29
        0xF8F41DBD289A147CE9DA3113B5F0B8C00A60B1CE1D7E819D7A431D7C90EA0E5F)
  order :=
    joined 0xFFFFFFFFFFFFFFFFFFFFFFFFFFFFFFFF
      0xFFFFFFFFFFFFFFFFC7634D81F4372DDF581A0DB248B0A77AECEC196ACCC52973

def p521 : Curve where
  name := "secp521r1"
  bits := 521
  prime := twoPow 521 - 1
  b :=
    joined 0x51953EB9618E1C9A1F929A21A0B68540EEA2DA725B99B315F3B8B489918EF109E1
      0x56193951EC7E937B1652C0BD3BB1BF073573DF883D2C34F1EF451FD46B503F00
  base :=
    (joined 0xC6858E06B70404E9CD9E3ECB662395B4429C648139053FB521F828AF606B4D3DBA
        0xA14B5E77EFE75928FE1DC127A2FFA8DE3348B3C1856A429BF97E7E31C2E5BD66,
      joined 0x11839296A789A3BC0045C8A5FB42C7D1BD998F54449579B446817AFBD17273E662C
        0x97EE72995EF42640C550B9013FAD0761353C7086A272C24088BE94769FD16650)
  order :=
    joined 0x1FFFFFFFFFFFFFFFFFFFFFFFFFFFFFFFFFFFFFFFFFFFFFFFFFFFFFFFFFFFFFFFFFA
      0x51868783BF2F966B7FCC0148F709A5D03BB5C9B8899C47AEBB6FB71E91386409

/-- A point of a curve, or the one beyond. -/
abbrev Point := Option (Nat × Nat)

/-- A pair of numbers below the prime that lies on the curve. -/
def holds (c : Curve) (x y : Nat) : Bool :=
  x < c.prime && y < c.prime
    && y * y % c.prime == (x * x * x + (c.prime - 3) * x + c.b) % c.prime

/-- A difference modulo the prime. -/
def minus (c : Curve) (m n : Nat) : Nat := (m + (c.prime - n % c.prime)) % c.prime

/-- The third point of a line with a slope through two points, turned over. -/
def turned (c : Curve) (slope x₁ y₁ x₂ : Nat) : Nat × Nat :=
  let x := c.minus (slope * slope) (x₁ + x₂)
  (x, c.minus (slope * c.minus x₁ x) y₁)

def add (c : Curve) : Point → Point → Point
  | none, q => q
  | p, none => p
  | some (x₁, y₁), some (x₂, y₂) =>
      if x₁ = x₂ then
        if (y₁ + y₂) % c.prime = 0 then none
        else
          let slope := c.minus (3 * x₁ * x₁) 3 * inverseMod c.prime (2 * y₁) % c.prime
          some (c.turned slope x₁ y₁ x₂)
      else
        let slope := c.minus y₂ y₁ * inverseMod c.prime (c.minus x₂ x₁) % c.prime
        some (c.turned slope x₁ y₁ x₂)

/-- A multiple of a point, by halving the factor. -/
def times (c : Curve) (n : Nat) (p : Point) : Point :=
  if n = 0 then none
  else
    let half := c.times (n / 2) (c.add p p)
    if n % 2 = 1 then c.add p half else half
termination_by n

structure Key where
  curve : Curve
  point : Nat × Nat
  /-- The factor of the half that signs, if the key is that half. -/
  secret : Option Nat
  deriving DecidableEq, Repr

/-- How many bytes each of the two numbers of a signature has. -/
def Key.size (k : Key) : Nat := (k.curve.bits + 7) / 8

/-- The factor that hides the secret in one signature, which no two messages share. -/
def Key.hidingFactor (k : Key) (h : Sha2) (secret : Nat) (message : List Nat) : Nat :=
  Sha2.ofBytes (h.hash (Sha2.bytesOf k.size secret ++ message)) % (k.curve.order - 1) + 1

def Key.sign? (k : Key) (h : Sha2) (message : List Nat) : Option (List Nat) := do
  let d ← k.secret
  let n := k.curve.order
  let factor := k.hidingFactor h d message
  let (x, _) ← k.curve.times factor (some k.curve.base)
  let r := x % n
  let s := inverseMod n factor * (Sha2.ofBytes (h.hash message) + r * d) % n
  pure (Sha2.bytesOf k.size r ++ Sha2.bytesOf k.size s)

def Key.verifies (k : Key) (h : Sha2) (message signature : List Nat) : Bool :=
  let n := k.curve.order
  let r := Sha2.ofBytes (signature.take k.size)
  let s := Sha2.ofBytes (signature.drop k.size)
  let inverse := inverseMod n s
  let sum := k.curve.add
    (k.curve.times (Sha2.ofBytes (h.hash message) * inverse % n) (some k.curve.base))
    (k.curve.times (r * inverse % n) (some k.point))
  signature.length == 2 * k.size && 0 < r && r < n && 0 < s && s < n
    && sum.any fun (x, _) => x % n == r

end Curve

end Targeting.Crypto

import Roster.Tls.Modular
import Roster.Token.BigEndian

/-! # Curves for signatures

The points of a curve are the solutions of `y² = x³ - 3x + b` below a prime, and one more without
coordinates, which adds nothing. A private key is a number, and the public key that belongs to it
is that multiple of a point that all users of the curve share. -/

namespace Roster.Tls

structure Curve where
  prime : Nat
  b : Nat
  /-- Coordinates of the shared point. -/
  x : Nat
  y : Nat
  /-- How many multiples the shared point has. -/
  order : Nat
  /-- Bytes of a coordinate. -/
  width : Nat

namespace Curve

/-- A point, or nothing for the one without coordinates. -/
abbrev Point := Option (Nat × Nat)

/-- The third point on the line through two points, or on the tangent of one, with its second
coordinate turned to the other side. -/
def along (c : Curve) (slope x₁ y₁ x₂ : Nat) : Point :=
  let x := Modular.sub c.prime (slope * slope) (x₁ + x₂)
  some (x, Modular.sub c.prime (slope * Modular.sub c.prime x₁ x) y₁)

def add (c : Curve) : Point → Point → Point
  | none, q => q
  | p, none => p
  | some (x₁, y₁), some (x₂, y₂) =>
    let p := c.prime
    if x₁ = x₂ then
      if (y₁ + y₂) % p = 0 then none
      else c.along (Modular.sub p (3 * x₁ * x₁) 3 * Modular.inverse p (2 * y₁ % p) % p) x₁ y₁ x₂
    else
      c.along (Modular.sub p y₂ y₁ * Modular.inverse p (Modular.sub p x₂ x₁) % p) x₁ y₁ x₂

/-- A multiple of a point, from the bits of the number. -/
def multiple (c : Curve) (n : Nat) (q : Point) : Point :=
  if n = 0 then none
  else
    let half := c.multiple (n / 2) q
    let even := c.add half half
    if n % 2 = 1 then c.add even q else even
  termination_by n

/-- A public key, written with both coordinates. -/
def publicKey? (c : Curve) (secret : Nat) : Option (List UInt8) :=
  if 0 < secret ∧ secret < c.order then
    match c.multiple secret (some (c.x, c.y)) with
    | some (x, y) => some (4 :: BigEndian.encode c.width x ++ BigEndian.encode c.width y)
    | none => none
  else none

def p256 : Curve where
  prime := 0xFFFFFFFF00000001000000000000000000000000FFFFFFFFFFFFFFFFFFFFFFFF
  b := 0x5AC635D8AA3A93E7B3EBBD55769886BC651D06B0CC53B0F63BCE3C3E27D2604B
  x := 0x6B17D1F2E12C4247F8BCE6E563A440F277037D812DEB33A0F4A13945D898C296
  y := 0x4FE342E2FE1A7F9B8EE7EB4A7C0F9E162BCE33576B315ECECBB6406837BF51F5
  order := 0xFFFFFFFF00000000FFFFFFFFFFFFFFFFBCE6FAADA7179E84F3B9CAC2FC632551
  width := 32

def p384 : Curve where
  prime := 0xFFFFFFFFFFFFFFFFFFFFFFFFFFFFFFFFFFFFFFFFFFFFFFFFFFFFFFFFFFFFFFFEFFFFFFFF0000000000000000FFFFFFFF
  b := 0xB3312FA7E23EE7E4988E056BE3F82D19181D9C6EFE8141120314088F5013875AC656398D8A2ED19D2A85C8EDD3EC2AEF
  x := 0xAA87CA22BE8B05378EB1C71EF320AD746E1D3B628BA79B9859F741E082542A385502F25DBF55296C3A545E3872760AB7
  y := 0x3617DE4A96262C6F5D9E98BF9292DC29F8F41DBD289A147CE9DA3113B5F0B8C00A60B1CE1D7E819D7A431D7C90EA0E5F
  order := 0xFFFFFFFFFFFFFFFFFFFFFFFFFFFFFFFFFFFFFFFFFFFFFFFFC7634D81F4372DDF581A0DB248B0A77AECEC196ACCC52973
  width := 48

/-- Whether coordinates solve the curve's equation. -/
def Holds (c : Curve) (x y : Nat) : Prop := (y * y + 3 * x) % c.prime = (x * x * x + c.b) % c.prime

instance (c : Curve) (x y : Nat) : Decidable (c.Holds x y) :=
  inferInstanceAs (Decidable (_ = _))

/-- The shared points are points of their curves. -/
example : p256.Holds p256.x p256.y ∧ p384.Holds p384.x p384.y := by decide

end Curve

end Roster.Tls

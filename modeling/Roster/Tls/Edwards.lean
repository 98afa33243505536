import Roster.Tls.Modular
import Roster.Tls.Sha512

/-! # The twisted curve

The points of this curve are the solutions of `y² - x² = 1 + d x² y²` below a prime. A private key
is a seed; the number that it stands for is taken from the seed's digest. -/

namespace Roster.Tls.Edwards

def prime : Nat := 0x7FFFFFFFFFFFFFFFFFFFFFFFFFFFFFFFFFFFFFFFFFFFFFFFFFFFFFFFFFFFFFED

def d : Nat := 0x52036CEE2B6FFE738CC740797779E89800700A4D4141D8AB75EB4DCA135978A3

/-- A point by coordinates that have to be divided by `z`. -/
structure Point where
  x : Nat
  y : Nat
  z : Nat
  deriving DecidableEq, Repr

namespace Point

def zero : Point := ⟨0, 1, 1⟩

/-- The point that all users share. -/
def base : Point where
  x := 0x216936D3CD6E53FEC0A4E231FDD6DC5C692CC7609525A7B2C9562D608F25D51A
  y := 0x6666666666666666666666666666666666666666666666666666666666666658
  z := 1

/-- The sum of any two points, equal ones too. -/
def add (s t : Point) : Point :=
  let a := s.z * t.z % prime
  let square := a * a % prime
  let xs := s.x * t.x % prime
  let ys := s.y * t.y % prime
  let e := d * xs % prime * ys % prime
  let f := Modular.sub prime square e
  let g := square + e
  let cross := Modular.sub prime ((s.x + s.y) * (t.x + t.y)) (xs + ys)
  ⟨a * f % prime * cross % prime, a * g % prime * (ys + xs) % prime, f * g % prime⟩

/-- A multiple of a point, from the bits of the number. -/
def multiple (n : Nat) (q : Point) : Point :=
  if n = 0 then zero
  else
    let half := multiple (n / 2) q
    let even := half.add half
    if n % 2 = 1 then even.add q else even
  termination_by n

/-- The second coordinate, last byte first, with the parity of the first one in its highest bit. -/
def encode (q : Point) : List UInt8 :=
  let scale := Modular.inverse prime q.z
  let x := q.x * scale % prime
  let y := q.y * scale % prime
  (BigEndian.encode 32 (y + (x % 2) <<< 255)).reverse

end Point

/-- The number of a seed: the first half of its digest, last byte first, made a multiple of eight
that has its highest bit at a fixed place. -/
def secret (seed : List UInt8) : Nat :=
  let n := BigEndian.value ((Sha512.digest seed).take 32).reverse
  n % (1 <<< 254) / 8 * 8 + 1 <<< 254

def publicKey (seed : List UInt8) : List UInt8 := (Point.multiple (secret seed) .base).encode

end Roster.Tls.Edwards

import Roster.Token.BigEndian

/-! # A digest of 64 bytes

The constants are the first 64 bits behind the point of the square roots of the first eight
primes, and of the cube roots of the first eighty. -/

namespace Roster.Sha512

/-- The greatest number below `low + 2 ^ bits` whose power is at most `n`. -/
def root (exponent n : Nat) : Nat → Nat → Nat
  | 0, low => low
  | bits + 1, low =>
    let high := low + 1 <<< bits
    root exponent n bits (if Nat.pow high exponent ≤ n then high else low)

/-- The first 64 bits behind the point of a root. -/
def rootBits (exponent n : Nat) : UInt64 :=
  UInt64.ofNat (root exponent (n <<< (64 * exponent)) 70 0)

def isPrime (n : Nat) : Bool := 2 ≤ n && (List.range n).all fun d => d < 2 || n % d != 0

def primes : List Nat := (List.range 410).filter isPrime

def start : List UInt64 := (primes.take 8).map (rootBits 2)

def roundKeys : List UInt64 := (primes.take 80).map (rootBits 3)

def rotate (x : UInt64) (n : UInt64) : UInt64 := x >>> n ||| x <<< (64 - n)

/-- The words of a block and those made from them, last first. -/
def schedule (words : List UInt64) : List UInt64 :=
  (List.range 64).foldl (fun done _ =>
    let back := fun i => done.getD i 0
    let a := back 14
    let b := back 1
    let s := rotate a 1 ^^^ rotate a 8 ^^^ a >>> 7
    let t := rotate b 19 ^^^ rotate b 61 ^^^ b >>> 6
    (back 15 + s + back 6 + t) :: done) words.reverse

structure State where
  a : UInt64
  b : UInt64
  c : UInt64
  d : UInt64
  e : UInt64
  f : UInt64
  g : UInt64
  h : UInt64

namespace State

def ofWords (w : List UInt64) : State :=
  ⟨w.getD 0 0, w.getD 1 0, w.getD 2 0, w.getD 3 0, w.getD 4 0, w.getD 5 0, w.getD 6 0, w.getD 7 0⟩

def words (s : State) : List UInt64 := [s.a, s.b, s.c, s.d, s.e, s.f, s.g, s.h]

def round (s : State) (key word : UInt64) : State :=
  let sum := rotate s.e 14 ^^^ rotate s.e 18 ^^^ rotate s.e 41
  let pick := (s.e &&& s.f) ^^^ (~~~ s.e &&& s.g)
  let t := s.h + sum + pick + key + word
  let sum := rotate s.a 28 ^^^ rotate s.a 34 ^^^ rotate s.a 39
  let most := (s.a &&& s.b) ^^^ (s.a &&& s.c) ^^^ (s.b &&& s.c)
  ⟨t + sum + most, s.a, s.b, s.c, s.d + t, s.e, s.f, s.g⟩

end State

def block (state : List UInt64) (words : List UInt64) : List UInt64 :=
  let rounds := roundKeys.zip (schedule words).reverse
  let s := rounds.foldl (fun s (key, word) => s.round key word) (State.ofWords state)
  List.zipWith (· + ·) state s.words

/-- The text with a one behind it, zeros and its length in bits, in blocks of 128 bytes. -/
def padded (bytes : List UInt8) : List UInt8 :=
  let zeros := (239 - bytes.length % 128) % 128
  bytes ++ 0x80 :: List.replicate zeros 0 ++ BigEndian.encode 16 (8 * bytes.length)

def words : List UInt8 → List UInt64
  | a :: b :: c :: d :: e :: f :: g :: h :: rest =>
    UInt64.ofNat (BigEndian.value [a, b, c, d, e, f, g, h]) :: words rest
  | _ => []

/-- Works through the words of whole blocks, sixteen at a time. -/
def blocks : Nat → List UInt64 → List UInt64 → List UInt64
  | 0, state, _ => state
  | n + 1, state, words => blocks n (block state (words.take 16)) (words.drop 16)

def digest (bytes : List UInt8) : List UInt8 :=
  let text := padded bytes
  (blocks (text.length / 128) start (words text)).flatMap fun w => BigEndian.encode 8 w.toNat

end Roster.Sha512

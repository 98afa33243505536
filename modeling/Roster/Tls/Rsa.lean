/-! # Keys made of two primes

Whether the factors are prime is not looked at, nor whether the two exponents belong together. All
else that the numbers of a key have to do with each other is checked. -/

namespace Roster.Tls

structure RsaKey where
  modulus : Nat
  publicExponent : Nat
  privateExponent : Nat
  factor : Nat
  cofactor : Nat
  /-- The private exponent modulo one less than a factor, for each of the two. -/
  factorExponent : Nat
  cofactorExponent : Nat
  /-- The inverse of the second factor modulo the first. -/
  coefficient : Nat
  deriving DecidableEq, Repr

namespace RsaKey

def bits (n : Nat) : Nat := if n = 0 then 0 else Nat.log2 n + 1

def isOdd (n : Nat) : Bool := n % 2 == 1

/-- Bits of each factor. -/
def half (k : RsaKey) : Nat := (bits k.modulus + 1) / 2

/-- At least 2048 bits, counted in whole bytes, and at most 4096. -/
def modulusAllowed (k : RsaKey) : Bool :=
  isOdd k.modulus && 2048 ≤ (bits k.modulus + 7) / 8 * 8 && bits k.modulus ≤ 4096

def exponentAllowed (k : RsaKey) : Bool :=
  isOdd k.publicExponent && 65537 ≤ k.publicExponent && k.publicExponent < 8589934592

def factorsFit (k : RsaKey) : Bool :=
  k.half % 512 == 0 && isOdd k.factor && isOdd k.cofactor && bits k.factor == k.half
    && bits k.cofactor == k.half && k.factor * k.cofactor % k.modulus == 0

def privateExponentFits (k : RsaKey) : Bool :=
  isOdd k.privateExponent && k.half < bits k.privateExponent && k.privateExponent < k.modulus

def remaindersFit (k : RsaKey) : Bool :=
  isOdd k.factorExponent && k.factorExponent < k.factor
    && isOdd k.cofactorExponent && k.cofactorExponent < k.cofactor
    && k.coefficient < k.factor && k.coefficient * k.cofactor % k.factor == 1

def isSound (k : RsaKey) : Bool :=
  k.modulusAllowed && k.exponentAllowed && k.factorsFit && k.privateExponentFits && k.remaindersFit

end RsaKey

end Roster.Tls

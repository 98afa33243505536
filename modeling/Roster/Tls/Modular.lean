/-! # Arithmetic with remainders -/

namespace Roster.Modular

/-- The remainder of a power, from the bits of the exponent. -/
def power (modulus base exponent : Nat) : Nat :=
  if exponent = 0 then 1 % modulus
  else
    let half := power modulus (base * base % modulus) (exponent / 2)
    if exponent % 2 = 1 then half * base % modulus else half
  termination_by exponent

/-- The inverse for a prime modulus of what it does not divide. -/
def inverse (prime a : Nat) : Nat := power prime a (prime - 2)

def sub (modulus a b : Nat) : Nat := (a + modulus - b % modulus) % modulus

end Roster.Modular

/-! # Floating-point numbers of 64 bits

A number is a mantissa times a power of two. Every result is the nearest number that fits, of two
equally near ones the one with the even mantissa; nothing here is rounded twice. -/

namespace Roster

/-- Signs are kept apart, so only numbers that are not negative occur. -/
structure Binary64 where
  mantissa : Nat
  exponent : Int
  deriving DecidableEq, Repr

namespace Binary64

/-- The whole number nearest to a quotient; a half goes to the even neighbour. -/
def roundDiv (num den : Nat) : Nat :=
  let quotient := num / den
  let twice := 2 * (num % den)
  if den < twice ∨ (twice = den ∧ quotient % 2 = 1) then quotient + 1 else quotient

/-- The smallest exponent; below it mantissas lose digits. -/
def leastExponent : Int := -1074

/-- A quotient scaled by a power of two, as numerator and denominator. -/
def scaleDown (num den : Nat) (exponent : Int) : Nat × Nat :=
  if exponent < 0 then (num * Nat.pow 2 exponent.natAbs, den)
  else (num, den * Nat.pow 2 exponent.natAbs)

/-- The nearest number to a quotient. Mantissas have 53 digits unless the exponent is the least. -/
def nearest (num den : Nat) : Binary64 :=
  let guess : Int := (Nat.log2 num : Int) - Nat.log2 den - 52
  let scaled := scaleDown num den guess
  let exponent := if scaled.1 / scaled.2 < 0x10000000000000 then guess - 1 else guess
  let exponent := max exponent leastExponent
  let scaled := scaleDown num den exponent
  ⟨roundDiv scaled.1 scaled.2, exponent⟩

/-- The number as numerator and denominator. -/
def ratio (a : Binary64) : Nat × Nat := scaleDown a.mantissa 1 (-a.exponent)

def isZero (a : Binary64) : Bool := a.mantissa == 0

/-- Numbers from the 1024th power of two on stand for infinity. -/
def isInfinite (a : Binary64) : Bool :=
  let (num, den) := a.ratio
  Nat.pow 2 1024 * den ≤ num

def mul (a b : Binary64) : Binary64 :=
  nearest (a.ratio.1 * b.ratio.1) (a.ratio.2 * b.ratio.2)

/-- A quotient; `b` is not zero. -/
def div (a b : Binary64) : Binary64 :=
  nearest (a.ratio.1 * b.ratio.2) (a.ratio.2 * b.ratio.1)

/-- A mantissa times a power of ten. Powers so large or small that only infinity or zero can come
out are not worked out. -/
def ofDecimal (mantissa : Nat) (exponent : Int) : Binary64 :=
  let size : Int := (Nat.toDigits 10 mantissa).length + exponent
  if mantissa = 0 ∨ size < -400 then ⟨0, leastExponent⟩
  else if 400 < size then ⟨1, 1024⟩
  else if exponent < 0 then nearest mantissa (Nat.pow 10 exponent.natAbs)
  else nearest (mantissa * Nat.pow 10 exponent.natAbs) 1

def powerOfTen (n : Nat) : Binary64 := nearest (Nat.pow 10 n) 1

/-- A mantissa and a power of ten that read back as the number: seventeen digits tell any two
numbers apart. -/
def toDecimal (a : Binary64) : Nat × Int :=
  if a.isZero then (0, 0)
  else
    let (num, den) := a.ratio
    let exponent : Int := (Nat.toDigits 10 num).length - ((Nat.toDigits 10 den).length : Int) - 17
    if exponent < 0 then (roundDiv (num * Nat.pow 10 exponent.natAbs) den, exponent)
    else (roundDiv num (den * Nat.pow 10 exponent.natAbs), exponent)

end Binary64

end Roster

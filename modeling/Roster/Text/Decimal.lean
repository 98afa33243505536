/-! # Unsigned decimal numbers

Reading stops at the first fault from the left, so a number that is already too large is
reported as such whatever follows it. One leading plus sign is accepted. -/

namespace Roster

inductive NumberFault where
  | empty
  | invalidDigit
  | tooLarge
  deriving DecidableEq, Repr

def NumberFault.message : NumberFault → String
  | .empty => "cannot parse integer from empty string"
  | .invalidDigit => "invalid digit found in string"
  | .tooLarge => "number too large to fit in target type"

namespace Decimal

def digit? (c : Char) : Option Nat :=
  if '0' ≤ c ∧ c ≤ '9' then some (c.toNat - 48) else none

/-- Reads digits behind the value `n`; every value stays below `limit`. -/
def extend (limit n : Nat) : List Char → Except NumberFault Nat
  | [] => .ok n
  | c :: rest =>
    match digit? c with
    | none => .error .invalidDigit
    | some d => if n * 10 + d < limit then extend limit (n * 10 + d) rest else .error .tooLarge

def parse (limit : Nat) (s : String) : Except NumberFault Nat :=
  match s.toList with
  | [] => .error .empty
  | ['+'] => .error .invalidDigit
  | '+' :: digits => extend limit 0 digits
  | digits => extend limit 0 digits

def parseUInt16 (s : String) : Except NumberFault UInt16 := (parse UInt16.size s).map UInt16.ofNat

def parseUInt32 (s : String) : Except NumberFault UInt32 := (parse UInt32.size s).map UInt32.ofNat

end Decimal

end Roster

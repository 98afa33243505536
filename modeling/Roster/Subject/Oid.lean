import Roster.Subject.Error

/-! # Object identifiers

An identifier is a list of arcs. On the wire its first two arcs share one number, and each
number is a run of base-128 digits of which all but the last have their high bit set. -/

namespace Roster

abbrev Oid := List Nat

namespace Oid

/-- Numbers from here on do not fit in sixty-four bits. -/
def limit : Nat := UInt64.size

/-- Reads numbers behind a number whose digits so far have the value `n`; `started` says
whether there are such digits. -/
def numbersFrom (n : Nat) (started : Bool) : List UInt8 → Except SubjectError (List Nat)
  | [] => if started then .error .truncatedIdentifier else .ok []
  | b :: rest =>
    if limit ≤ n * 128 then .error .arcOverflow
    else
      let m := n * 128 + b.toNat % 128
      if b < 0x80 then do return m :: (← numbersFrom 0 false rest)
      else numbersFrom m true rest

/-- Splits the first number; only the third root takes second arcs from forty on. -/
def splitFirst (n : Nat) : List Nat :=
  if n < 40 then [0, n] else if n < 80 then [1, n - 40] else [2, n - 80]

def decode (bytes : List UInt8) : Except SubjectError Oid := do
  match ← numbersFrom 0 false bytes with
  | [] => throw .emptyIdentifier
  | first :: rest => return splitFirst first ++ rest

def text (oid : Oid) : String := ".".intercalate (oid.map toString)

end Oid

end Roster

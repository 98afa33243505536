import Roster.Text.CharSet

/-! # Ranges of characters as ranges of bytes

In UTF-8, a range of characters falls into parts. Those of a part take the same number of bytes,
and each of their bytes runs through a range of its own. -/

namespace Roster

/-- The bytes from `first` to `last`, both included. -/
structure ByteRange where
  first : Nat
  last : Nat
  deriving DecidableEq, Repr, Inhabited

namespace ByteRange

/-- The bytes of a code point. -/
def bytes (n : Nat) : List Nat :=
  if n < 0x80 then [n]
  else if n < 0x800 then [0xC0 + n / 0x40, 0x80 + n % 0x40]
  else if n < 0x10000 then [0xE0 + n / 0x1000, 0x80 + n / 0x40 % 0x40, 0x80 + n % 0x40]
  else [0xF0 + n / 0x40000, 0x80 + n / 0x1000 % 0x40, 0x80 + n / 0x40 % 0x40, 0x80 + n % 0x40]

/-- Where a range has to be cut in two at blocks of a size: behind a block that it starts inside
of, else before one that it ends inside of. -/
def blockCut? (r : CharRange) (size : Nat) : Option Nat :=
  if r.first / size = r.last / size then none
  else if r.first % size ≠ 0 then some ((r.first / size + 1) * size)
  else if (r.last + 1) % size ≠ 0 then some (r.last / size * size)
  else none

/-- Where a range has to be cut in two, if it is no single part. -/
def cut? (r : CharRange) : Option Nat :=
  match [0x80, 0x800, 0x10000].find? fun n => decide (r.first < n) && decide (n ≤ r.last) with
  | some n => some n
  | none =>
    if r.last < 0x80 then none else [0x40, 0x1000, 0x40000].findSome? (blockCut? r)

/-- The parts of a range without surrogates, in ascending order. -/
def split (r : CharRange) : List (List ByteRange) :=
  match cut? r with
  | some n =>
    if _h : r.first < n ∧ n ≤ r.last then
      split ⟨r.first, n - 1⟩ ++ split ⟨n, r.last⟩
    else []
  | none => [List.zipWith ByteRange.mk (bytes r.first) (bytes r.last)]
  termination_by r.last - r.first

/-- The parts of a range, in ascending order. -/
def parts (r : CharRange) : List (List ByteRange) :=
  if r.first < 0xE000 ∧ 0xD7FF < r.last then split ⟨r.first, 0xD7FF⟩ ++ split ⟨0xE000, r.last⟩
  else split r

end ByteRange

end Roster

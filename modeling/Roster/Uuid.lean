import Roster.Token.Hex

/-! # Group identities -/

namespace Roster

/-- Sixteen bytes, written in five groups of hex digits. -/
structure Uuid where
  bytes : List UInt8
  length_bytes : bytes.length = 16
  deriving DecidableEq, Repr

namespace Uuid

def ofBytes? (bytes : List UInt8) : Option Uuid :=
  if h : bytes.length = 16 then some ⟨bytes, h⟩ else none

def zero : Uuid := ⟨List.replicate 16 0, rfl⟩

def text (u : Uuid) : String :=
  let part (first count : Nat) : String := Hex.text ((u.bytes.drop first).take count)
  "-".intercalate [part 0 4, part 4 2, part 6 2, part 8 2, part 10 6]

end Uuid

end Roster

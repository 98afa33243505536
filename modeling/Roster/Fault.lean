/-! # How an operation can fail

Counters are words that never wrap: an operation that would need the successor of the last
word stops instead, and that stop is kept apart from every refusal a caller can act on. -/

namespace Roster

inductive Fault (ε : Type) where
  | refused (cause : ε)
  | exhausted
  deriving DecidableEq, Repr

def Fault.map {ε δ : Type} (f : ε → δ) : Fault ε → Fault δ
  | .refused cause => .refused (f cause)
  | .exhausted => .exhausted

/-- Turns a plain refusal into a fault. -/
def refusing {ε α : Type} : Except ε α → Except (Fault ε) α
  | .ok a => .ok a
  | .error e => .error (.refused e)

namespace Counter

def last : UInt32 := 4294967295

def next? (n : UInt32) : Option UInt32 := if n = last then none else some (n + 1)

def next {ε : Type} (n : UInt32) : Except (Fault ε) UInt32 :=
  match next? n with
  | some m => .ok m
  | none => .error .exhausted

theorem toNat_of_next? {n m : UInt32} (h : next? n = some m) : m.toNat = n.toNat + 1 := by
  unfold next? at h
  split at h
  · cases h
  · rename_i hn
    cases h
    have hlt := n.toNat_lt
    have hne : n.toNat ≠ 4294967295 := fun e => hn (UInt32.toNat_inj.mp (by simpa [last] using e))
    rw [UInt32.toNat_add]
    simp
    omega

end Counter

end Roster

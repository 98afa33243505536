/-! # Numbers as bytes, most significant first -/

namespace Roster.BigEndian

/-- The last `width` base-256 digits of a number. -/
def encode : Nat → Nat → List UInt8
  | 0, _ => []
  | width + 1, n => encode width (n / 256) ++ [UInt8.ofNat n]

def value (bytes : List UInt8) : Nat := bytes.foldl (fun n b => n * 256 + b.toNat) 0

@[simp] theorem length_encode (width n : Nat) : (encode width n).length = width := by
  induction width generalizing n with
  | zero => rfl
  | succ width ih => simp [encode, ih]

theorem value_append_singleton (bytes : List UInt8) (b : UInt8) :
    value (bytes ++ [b]) = value bytes * 256 + b.toNat := by
  simp [value, List.foldl_append]

theorem value_encode {width n : Nat} (h : n < Nat.pow 256 width) : value (encode width n) = n := by
  induction width generalizing n with
  | zero =>
    have : n = 0 := by simpa using h
    subst this
    rfl
  | succ width ih =>
    have hdiv : n / 256 < Nat.pow 256 width := by
      have hmul : Nat.pow 256 (width + 1) = Nat.pow 256 width * 256 := rfl
      rw [hmul] at h
      omega
    rw [encode, value_append_singleton, ih hdiv, UInt8.toNat_ofNat']
    omega

end Roster.BigEndian

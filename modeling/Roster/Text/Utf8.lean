/-! # Text as bytes

Names, hosts and versions travel as UTF-8. Records are ordered by those bytes, so the
order of names is defined here next to the encoding. -/

namespace Roster.Utf8

def encode (s : String) : List UInt8 := s.toByteArray.data.toList

/-- Fails exactly on byte lists that are not well-formed UTF-8. -/
def decode? (bytes : List UInt8) : Option String := String.fromUTF8? ⟨bytes.toArray⟩

theorem decode?_encode (s : String) : decode? (encode s) = some s := by
  unfold decode? String.fromUTF8? encode
  rw [dif_pos (by simpa using s.isValidUTF8)]
  rfl

theorem encode_of_decode? {bytes : List UInt8} {s : String} (h : decode? bytes = some s) :
    encode s = bytes := by
  unfold decode? String.fromUTF8? at h
  split at h
  · cases h
    simp [encode, String.fromUTF8]
  · cases h

theorem encode_injective {a b : String} (h : encode a = encode b) : a = b := by
  have hb := decode?_encode b
  rw [← h, decode?_encode] at hb
  exact Option.some.inj hb

/-- Number of bytes a text takes on the wire. -/
def size (s : String) : Nat := s.utf8ByteSize

theorem length_encode (s : String) : (encode s).length = size s := by
  simp [encode, size]

/-- Order of names: the lexicographic order of their bytes. -/
def Before (a b : String) : Prop := encode a < encode b

instance (a b : String) : Decidable (Before a b) :=
  inferInstanceAs (Decidable (encode a < encode b))

theorem not_before_self (a : String) : ¬ Before a a := List.lt_irrefl (encode a)

theorem Before.trans {a b c : String} (hab : Before a b) (hbc : Before b c) : Before a c :=
  List.lt_trans hab hbc

theorem before_or_eq_or_before (a b : String) : Before a b ∨ a = b ∨ Before b a := by
  rcases Decidable.em (encode a < encode b) with h | h
  · exact Or.inl h
  rcases Decidable.em (encode b < encode a) with h' | h'
  · exact Or.inr (Or.inr h')
  · exact Or.inr (Or.inl (encode_injective (List.le_antisymm (List.not_lt.mp h') (List.not_lt.mp h))))

end Roster.Utf8

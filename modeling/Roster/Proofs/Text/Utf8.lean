import Roster.Text.Utf8

/-!
# The bytes of a text

A text's bytes are those of its characters in turn. A byte below 128 stands for one character by
itself and is no part of another one's bytes, so texts can be cut at such bytes.
-/

namespace Roster.Utf8

theorem encode_eq (s : String) : encode s = s.toList.flatMap String.utf8EncodeChar := by
  rw [encode, ← String.utf8Encode_toList, List.utf8Encode, List.toList_data_toByteArray]

theorem encode_ofList (cs : List Char) :
    encode (String.ofList cs) = cs.flatMap String.utf8EncodeChar := by
  rw [encode_eq, String.toList_ofList]

theorem encode_append (s t : String) : encode (s ++ t) = encode s ++ encode t := by
  simp only [encode_eq, String.toList_append, List.flatMap_append]

theorem size_append (s t : String) : size (s ++ t) = size s + size t := by
  simp only [← length_encode, encode_append, List.length_append]

/-- Every character takes a byte at least. -/
theorem length_le_size (s : String) : s.toList.length ≤ size s := by
  rw [← length_encode, encode_eq]
  induction s.toList with
  | nil => exact Nat.le_refl 0
  | cons c cs ih =>
    have first := c.utf8Size_pos
    rw [List.flatMap_cons, List.length_append, List.length_cons, String.length_utf8EncodeChar]
    omega

/-- The characters that are bytes of their own. -/
theorem encodeChar_of_ascii {c : Char} (ascii : c.toNat < 128) :
    String.utf8EncodeChar c = [UInt8.ofNat c.toNat] :=
  if_pos (Nat.le_of_lt_succ ascii)

theorem size_of_ascii {s : String} (ascii : ∀ c ∈ s.toList, c.toNat < 128) :
    size s = s.toList.length := by
  rw [← length_encode, encode_eq]
  generalize s.toList = cs at ascii
  induction cs with
  | nil => rfl
  | cons c cs ih =>
    obtain ⟨first, later⟩ := List.forall_mem_cons.mp ascii
    rw [List.flatMap_cons, List.length_append, ih later, encodeChar_of_ascii first,
      List.length_singleton, List.length_cons, Nat.add_comm]

theorem ascii_of_mem {c : Char} {b : UInt8} (mem : b ∈ String.utf8EncodeChar c) (small : b.toNat < 128) :
    c.toNat = b.toNat := by
  have high : ∀ {n k : Nat}, b = UInt8.ofNat (n + k) → n < 64 → 128 ≤ k → n + k < 256 → False := by
    rintro n k rfl - above below
    rw [UInt8.toNat_ofNat', Nat.mod_eq_of_lt below] at small
    omega
  by_cases ascii : c.toNat < 128
  · rw [encodeChar_of_ascii ascii] at mem
    obtain rfl := List.mem_singleton.mp mem
    rw [UInt8.toNat_ofNat', Nat.mod_eq_of_lt (by omega)]
  · have wide : ¬ c.val.toNat ≤ 127 := fun h => ascii (Nat.lt_succ_of_le h)
    simp only [String.utf8EncodeChar, if_neg wide] at mem
    exfalso
    split at mem
    · simp only [List.mem_cons, List.not_mem_nil, or_false] at mem
      rcases mem with h | h
      all_goals exact high h (by omega) (by omega) (by omega)
    · split at mem
      · simp only [List.mem_cons, List.not_mem_nil, or_false] at mem
        rcases mem with h | h | h
        all_goals exact high h (by omega) (by omega) (by omega)
      · simp only [List.mem_cons, List.not_mem_nil, or_false] at mem
        rcases mem with h | h | h | h
        all_goals exact high h (by omega) (by omega) (by omega)

section Ascii

variable {sign : Char}

theorem mem_encodeChar_iff (ascii : sign.toNat < 128) {c : Char} :
    UInt8.ofNat sign.toNat ∈ String.utf8EncodeChar c ↔ c = sign := by
  have value : (UInt8.ofNat sign.toNat).toNat = sign.toNat := by
    rw [UInt8.toNat_ofNat', Nat.mod_eq_of_lt (by omega)]
  constructor
  · intro mem
    have same := ascii_of_mem mem (value.symm ▸ ascii)
    exact Char.toNat_inj.mp (same.trans value)
  · rintro rfl
    rw [encodeChar_of_ascii ascii]
    exact List.mem_singleton_self _

theorem mem_encode_iff (ascii : sign.toNat < 128) {s : String} :
    UInt8.ofNat sign.toNat ∈ encode s ↔ sign ∈ s.toList := by
  rw [encode_eq, List.mem_flatMap]
  constructor
  · rintro ⟨c, mem, h⟩
    exact (mem_encodeChar_iff ascii).mp h ▸ mem
  · intro mem
    exact ⟨sign, mem, (mem_encodeChar_iff ascii).mpr rfl⟩

/-- The bytes in front of an ASCII byte are those of the characters in front of its character. -/
theorem takeWhile_encode (ascii : sign.toNat < 128) (s : String) :
    (encode s).takeWhile (· != UInt8.ofNat sign.toNat) =
      encode (String.ofList (s.toList.takeWhile (· != sign))) := by
  rw [encode_eq, encode_ofList]
  induction s.toList with
  | nil => rfl
  | cons c cs ih =>
    by_cases same : c = sign
    · subst same
      simp [encodeChar_of_ascii ascii]
    · have others : ∀ b ∈ String.utf8EncodeChar c, (b != UInt8.ofNat sign.toNat) = true := by
        intro b mem
        refine bne_iff_ne.mpr ?_
        rintro rfl
        exact same ((mem_encodeChar_iff ascii).mp mem)
      rw [List.flatMap_cons, List.takeWhile_append_of_pos others, ih,
        List.takeWhile_cons, if_pos (bne_iff_ne.mpr same), List.flatMap_cons]

theorem getLast?_encode (ascii : sign.toNat < 128) (s : String) :
    (encode s).getLast? = some (UInt8.ofNat sign.toNat) ↔ s.toList.getLast? = some sign := by
  rw [encode_eq]
  rcases s.toList.eq_nil_or_concat with h | ⟨cs, c, h⟩
  · simp [h]
  · have nonempty : (String.utf8EncodeChar c).getLast? ≠ none :=
      mt List.getLast?_eq_none_iff.mp String.utf8EncodeChar_ne_nil
    obtain ⟨b, ends⟩ := Option.isSome_iff_exists.mp (Option.isSome_iff_ne_none.mpr nonempty)
    rw [h, List.concat_eq_append, List.flatMap_append, List.flatMap_singleton, List.getLast?_concat,
      List.getLast?_append, ends, Option.some_or, ← ends]
    constructor
    · intro last
      have mem := List.mem_of_getLast? last
      rw [(mem_encodeChar_iff ascii).mp mem]
    · intro last
      obtain rfl := Option.some.inj last
      rw [encodeChar_of_ascii ascii]
      rfl

end Ascii

end Roster.Utf8

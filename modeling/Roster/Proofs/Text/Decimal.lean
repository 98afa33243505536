import Roster.Proofs.Result
import Roster.Proofs.Text.Words
import Roster.Text.Decimal

/-!
# Numbers that are written are read back

A number below the limit that is written with decimal digits is read as itself.
-/

namespace Roster.Decimal

theorem isDigit_iff {c : Char} : c.isDigit = true ↔ 48 ≤ c.toNat ∧ c.toNat ≤ 57 := by
  rw [Char.isDigit, Bool.and_eq_true, decide_eq_true_iff, decide_eq_true_iff]
  exact Iff.rfl

theorem digit?_of_isDigit {c : Char} (h : c.isDigit = true) : digit? c = some (c.toNat - 48) :=
  if_pos (isDigit_iff.mp h)

theorem le_ofDigitChars (n : Nat) (digits : List Char) : n ≤ Nat.ofDigitChars 10 digits n := by
  induction digits generalizing n with
  | nil => exact Nat.le_refl n
  | cons c rest ih =>
    rw [Nat.ofDigitChars_cons]
    exact Nat.le_trans (by omega) (ih _)

/-- Reading digits gives their value, as long as that is below the limit. -/
theorem extend_eq_ok {limit n : Nat} {digits : List Char} (all : ∀ c ∈ digits, c.isDigit = true)
    (small : Nat.ofDigitChars 10 digits n < limit) :
    extend limit n digits = .ok (Nat.ofDigitChars 10 digits n) := by
  induction digits generalizing n with
  | nil => rfl
  | cons c rest ih =>
    obtain ⟨first, later⟩ := List.forall_mem_cons.mp all
    have value : Nat.ofDigitChars 10 (c :: rest) n = Nat.ofDigitChars 10 rest (n * 10 + (c.toNat - 48)) := by
      rw [Nat.ofDigitChars_cons, Nat.mul_comm]
      rfl
    rw [value] at small ⊢
    have below := Nat.lt_of_le_of_lt (le_ofDigitChars (n * 10 + (c.toNat - 48)) rest) small
    rw [extend, digit?_of_isDigit first]
    simp only [if_pos below]
    exact ih later small

theorem digit?_of_mem_extend {limit n m : Nat} {digits : List Char} (h : extend limit n digits = .ok m) :
    ∀ c ∈ digits, digit? c ≠ none := by
  induction digits generalizing n with
  | nil => exact List.forall_mem_nil _
  | cons c rest ih =>
    rw [extend] at h
    split at h
    · cases h
    · rename_i d digit
      split at h
      · exact List.forall_mem_cons.mpr ⟨by rw [digit]; exact Option.some_ne_none d, ih h⟩
      · cases h

/-- A number is read from digits behind a plus sign at most. -/
theorem space_free_of_parse {α : Type} {limit : Nat} {s : String} {f : Nat → α} {a : α}
    (h : (parse limit s).map f = .ok a) : ' ' ∉ s.toList := by
  have digits : ∀ {cs : List Char}, (extend limit 0 cs).map f = .ok a → ' ' ∉ cs := by
    intro cs read mem
    obtain ⟨n, read, -⟩ := map_eq_ok_iff.mp read
    exact digit?_of_mem_extend read ' ' mem (by decide)
  rw [parse] at h
  split at h
  · cases h
  · cases h
  · rename_i spelled
    rw [spelled, List.mem_cons]
    rintro (plus | mem)
    · exact absurd plus (by decide)
    · exact digits h mem
  · exact digits h

theorem isDigit_of_mem_repr {n : Nat} {c : Char} (h : c ∈ n.repr.toList) : c.isDigit = true := by
  rw [Nat.toList_repr] at h
  exact Nat.isDigit_of_mem_toDigits (by decide) (by decide) h

theorem parse_repr {limit n : Nat} (small : n < limit) : parse limit n.repr = .ok n := by
  have digits : ∀ c ∈ n.repr.toList, c.isDigit = true := fun c hc => isDigit_of_mem_repr hc
  have value : Nat.ofDigitChars 10 n.repr.toList 0 = n := by
    rw [Nat.toList_repr]
    exact Nat.ofDigitChars_ten_toDigits
  have read := extend_eq_ok digits (value.symm ▸ small)
  rw [value] at read
  rw [parse]
  cases spelled : n.repr.toList with
  | nil =>
    rw [Nat.toList_repr] at spelled
    exact absurd spelled Nat.toDigits_ne_nil
  | cons c rest =>
    rw [spelled] at digits read
    have plus : c ≠ '+' := by
      rintro rfl
      exact absurd (digits '+' List.mem_cons_self) (by decide)
    split
    · cases ‹_ :: _ = []›
    · exact absurd (List.cons.inj ‹_›).1 plus
    · exact absurd (List.cons.inj ‹_›).1 plus
    · exact read

theorem parseUInt16_toString (n : UInt16) : parseUInt16 (toString n) = .ok n := by
  have read : parse UInt16.size (toString n) = .ok n.toNat := parse_repr n.toNat_lt
  rw [parseUInt16, read]
  exact congrArg Except.ok UInt16.ofNat_toNat

theorem parseUInt32_toString (n : UInt32) : parseUInt32 (toString n) = .ok n := by
  have read : parse UInt32.size (toString n) = .ok n.toNat := parse_repr n.toNat_lt
  rw [parseUInt32, read]
  exact congrArg Except.ok UInt32.ofNat_toNat

theorem isWord_repr (n : Nat) : IsWord n.repr := by
  refine ⟨?_, fun c hc => ?_⟩
  · rw [Nat.toList_repr]
    exact Nat.toDigits_ne_nil
  · have digit := isDigit_iff.mp (isDigit_of_mem_repr hc)
    exact ⟨by omega, by omega⟩

theorem length_repr_uint32 (n : UInt32) : (toString n).toList.length ≤ 10 := by
  have small : n.toNat < 10 ^ 10 := Nat.lt_of_lt_of_le n.toNat_lt (by decide)
  exact (Nat.length_repr_le_iff (by decide)).mpr small

end Roster.Decimal

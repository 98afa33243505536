import Roster.Proofs.Subject.Element

/-!
# Identifiers as they are spelled

The bytes of an object identifier, told without the reader: the first two arcs share a number, and every
number is a run of base-128 digits. Whatever numbers below the limit are spelled, with or without leading
zeros, the reader finds the arcs again, and it reads no other bytes.
-/

namespace Roster.Oid

/-- The number of base-128 digits behind digits of the value `n`. -/
def valueFrom (n : Nat) (digits : List UInt8) : Nat := digits.foldl (fun m b => m * 128 + b.toNat % 128) n

/-- All digits but the last have the high bit set. -/
inductive SpellsNumber (n : Nat) : List UInt8 → Prop
  | digits {front : List UInt8} {last : UInt8} (high : ∀ b ∈ front, ¬ b < 0x80) (low : last < 0x80)
      (value : valueFrom 0 (front ++ [last]) = n) : SpellsNumber n (front ++ [last])

/-- The numbers of the arcs. Only below the third root there are second arcs from forty on. -/
inductive Numbered : Oid → List Nat → Prop
  | arcs {root second : Nat} (shared : root < 2 ∧ second < 40 ∨ root = 2) (rest : List Nat) :
      Numbered (root :: second :: rest) ((root * 40 + second) :: rest)

def Spells (oid : Oid) (bytes : List UInt8) : Prop :=
  ∃ numbers, Numbered oid numbers ∧ (∀ n ∈ numbers, n < limit) ∧ Pieces SpellsNumber numbers bytes

theorem SpellsNumber.single (b : UInt8) (low : b < 0x80) : SpellsNumber b.toNat [b] := by
  have small : b.toNat < 128 := UInt8.lt_iff_toNat_lt.mp low
  refine @digits _ [] b (by simp) low ?_
  simp only [valueFrom, List.nil_append, List.foldl_cons, List.foldl_nil]
  omega

theorem le_valueFrom (n : Nat) (digits : List UInt8) : n ≤ valueFrom n digits := by
  induction digits generalizing n with
  | nil => exact Nat.le_refl n
  | cons b digits ih =>
    have more := ih (n * 128 + b.toNat % 128)
    rw [valueFrom, List.foldl_cons]
    exact Nat.le_trans (by omega) more

/-- A number that is below the limit in the end has been below it all the time. -/
theorem numbersFrom_append {front : List UInt8} {last : UInt8} (high : ∀ b ∈ front, ¬ b < 0x80)
    (low : last < 0x80) {n : Nat} (fits : valueFrom n (front ++ [last]) < limit) (started : Bool)
    (rest : List UInt8) :
    numbersFrom n started (front ++ last :: rest) =
      (numbersFrom 0 false rest).map (valueFrom n (front ++ [last]) :: ·) := by
  induction front generalizing n started with
  | nil =>
    have small : ¬ limit ≤ n * 128 := by
      simp only [valueFrom, List.nil_append, List.foldl_cons, List.foldl_nil] at fits
      omega
    rw [List.nil_append, numbersFrom, if_neg small]
    simp only [low, if_true]
    rfl
  | cons b front ih =>
    obtain ⟨first, later⟩ := List.forall_mem_cons.mp high
    have small : ¬ limit ≤ n * 128 := by
      have more := le_valueFrom (n * 128 + b.toNat % 128) (front ++ [last])
      rw [valueFrom] at more fits
      rw [List.cons_append, List.foldl_cons] at fits
      omega
    rw [List.cons_append, numbersFrom, if_neg small]
    simp only [first, if_false]
    exact ih later fits true

theorem numbersFrom_spelled {numbers : List Nat} {bytes : List UInt8}
    (spelled : Pieces SpellsNumber numbers bytes) (fit : ∀ n ∈ numbers, n < limit) :
    numbersFrom 0 false bytes = .ok numbers := by
  induction spelled with
  | nil => rfl
  | cons first later ih =>
    obtain ⟨here, there⟩ := List.forall_mem_cons.mp fit
    cases first with
    | digits high low value =>
      rw [List.append_assoc, List.singleton_append, numbersFrom_append high low (value.symm ▸ here),
        ih there, value]
      rfl

/-- The first number splits back into the arcs that share it. -/
theorem splitFirst_shared {root second : Nat} (shared : root < 2 ∧ second < 40 ∨ root = 2) :
    splitFirst (root * 40 + second) = [root, second] := by
  rw [splitFirst]
  rcases shared with ⟨hroot, hsecond⟩ | rfl
  · obtain rfl | rfl : root = 0 ∨ root = 1 := by omega
    · rw [if_pos (by omega), Nat.zero_mul, Nat.zero_add]
    · rw [if_neg (by omega), if_pos (by omega), Nat.one_mul, Nat.add_sub_cancel_left]
  · rw [if_neg (by omega), if_neg (by omega), Nat.add_sub_cancel_left]

theorem decode_spelled {oid : Oid} {bytes : List UInt8} (spelled : Spells oid bytes) :
    decode bytes = .ok oid := by
  obtain ⟨numbers, numbered, fit, spelled⟩ := spelled
  cases numbered with
  | arcs shared rest =>
    rw [decode, numbersFrom_spelled spelled fit]
    change Except.ok (splitFirst (_ * 40 + _) ++ rest) = _
    rw [splitFirst_shared shared]
    rfl

/-- What is read begins with the digits of a number below the limit, unless nothing is there. -/
theorem exists_of_numbersFrom {n : Nat} {started : Bool} {bytes : List UInt8} {numbers : List Nat}
    (h : numbersFrom n started bytes = .ok numbers) :
    (started = false ∧ bytes = [] ∧ numbers = []) ∨
      ∃ front last rest later, bytes = front ++ last :: rest ∧ (∀ b ∈ front, ¬ b < 0x80) ∧ last < 0x80 ∧
        valueFrom n (front ++ [last]) < limit ∧ numbersFrom 0 false rest = .ok later ∧
          numbers = valueFrom n (front ++ [last]) :: later := by
  induction bytes generalizing n started with
  | nil =>
    cases started with
    | true => cases h
    | false =>
      cases h
      exact Or.inl ⟨rfl, rfl, rfl⟩
  | cons b bytes ih =>
    refine Or.inr ?_
    simp only [numbersFrom] at h
    by_cases large : limit ≤ n * 128
    · rw [if_pos large] at h
      cases h
    rw [if_neg large] at h
    have fits : n * 128 + b.toNat % 128 < limit := by
      simp only [limit, UInt64.size] at large ⊢
      omega
    by_cases low : b < 0x80
    · rw [if_pos low] at h
      obtain ⟨later, hlater, h⟩ := bind_eq_ok_iff.mp h
      cases h
      exact ⟨[], b, bytes, later, rfl, by simp, low, fits, hlater, rfl⟩
    · rw [if_neg low] at h
      rcases ih h with ⟨started, -, -⟩ | ⟨front, last, rest, later, rfl, high, hlast, below, hlater, rfl⟩
      · cases started
      · have high : ∀ c ∈ b :: front, ¬ c < 0x80 := List.forall_mem_cons.mpr ⟨low, high⟩
        exact ⟨b :: front, last, rest, later, rfl, high, hlast, below, hlater, rfl⟩

theorem spelled_of_numbersFrom {numbers : List Nat} {bytes : List UInt8}
    (h : numbersFrom 0 false bytes = .ok numbers) :
    Pieces SpellsNumber numbers bytes ∧ ∀ n ∈ numbers, n < limit := by
  induction numbers generalizing bytes with
  | nil =>
    rcases exists_of_numbersFrom h with ⟨-, rfl, -⟩ | ⟨_, _, _, _, _, _, _, _, _, heq⟩
    · exact ⟨.nil, by simp⟩
    · cases heq
  | cons n numbers ih =>
    rcases exists_of_numbersFrom h with ⟨-, -, heq⟩ | ⟨front, last, rest, later, rfl, high, low, fits, h, heq⟩
    · cases heq
    · cases heq
      obtain ⟨pieces, small⟩ := ih h
      have whole := Pieces.cons (SpellsNumber.digits high low rfl) pieces
      rw [List.append_assoc, List.singleton_append] at whole
      exact ⟨whole, List.forall_mem_cons.mpr ⟨fits, small⟩⟩

/-- The first number is the one that the two arcs share, so nothing is taken off it that is not in it. -/
theorem exists_splitFirst (n : Nat) :
    ∃ root second, splitFirst n = [root, second] ∧ (root < 2 ∧ second < 40 ∨ root = 2) ∧
      root * 40 + second = n := by
  simp only [splitFirst]
  by_cases low : n < 40
  · exact ⟨0, n, if_pos low, by omega, by omega⟩
  rw [if_neg low]
  by_cases middle : n < 80
  · exact ⟨1, n - 40, if_pos middle, by omega, by omega⟩
  · exact ⟨2, n - 80, if_neg middle, by omega, by omega⟩

theorem decode_eq_ok_iff {oid : Oid} {bytes : List UInt8} : decode bytes = .ok oid ↔ Spells oid bytes := by
  refine ⟨fun h => ?_, decode_spelled⟩
  obtain ⟨numbers, read, h⟩ := bind_eq_ok_iff.mp h
  obtain ⟨spelled, fit⟩ := spelled_of_numbersFrom read
  cases numbers with
  | nil => cases h
  | cons first rest =>
    obtain ⟨root, second, split, shared, rfl⟩ := exists_splitFirst first
    cases h
    rw [split]
    exact ⟨_, .arcs shared rest, fit, spelled⟩

end Roster.Oid

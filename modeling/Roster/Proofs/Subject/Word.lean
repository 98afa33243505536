import Roster.Proofs.Subject.Identifier

/-!
# Reading with machine words

A reader that can go wrong where the readers proper cannot: a difference must not be negative, a list must have
the item that is asked for, and a word has sixty-four bits and loses what is moved out of them. For object
identifiers such a reader is set against the reader proper here. It goes wrong nowhere, finds the same arcs, and
refuses the same bytes for the same causes.
-/

namespace Roster.Guarded

/-- Why such a reader stops. Only a refusal is due to the bytes. -/
inductive Stop where
  | refused (cause : SubjectError)
  | outOfBounds
  | outOfRange
  | outOfRounds
  deriving DecidableEq, Repr

section Composition

variable {α β γ : Type}

/-- Two readers agree if they agree in each of their steps. -/
theorem bind_mapError {e : Except SubjectError α} {f : α → Except SubjectError β} {g : α → Except Stop β}
    (agrees : ∀ a, e = .ok a → g a = (f a).mapError .refused) :
    (e.mapError .refused >>= g) = (e >>= f).mapError .refused := by
  cases e with
  | error cause => rfl
  | ok a => exact agrees a rfl

theorem bind_map_mapError {e : Except SubjectError α} {view : α → γ} {f : α → Except SubjectError β}
    {g : γ → Except Stop β} (agrees : ∀ a, e = .ok a → g (view a) = (f a).mapError .refused) :
    ((e.map view).mapError .refused >>= g) = (e >>= f).mapError .refused := by
  cases e with
  | error cause => rfl
  | ok a => exact agrees a rfl

end Composition

section Words

def difference (m n : Nat) : Except Stop Nat := if m < n then .error .outOfRange else .ok (m - n)

/-- A word moved up by seven bits, whose place the byte's low bits take. -/
def push (n : UInt64) (b : UInt8) : UInt64 := n * 128 ||| (b &&& 0x7f).toUInt64

theorem difference_eq {m n : Nat} (h : n ≤ m) : difference m n = .ok (m - n) := if_neg (Nat.not_lt.mpr h)

theorem toNat_low (b : UInt8) : (b &&& 0x7f).toNat = b.toNat % 128 := by
  rw [UInt8.toNat_and]
  exact Nat.and_two_pow_sub_one_eq_mod b.toNat 7

theorem toNat_push {n : UInt64} (room : n.toNat * 128 < UInt64.size) (b : UInt8) :
    (push n b).toNat = n.toNat * 128 + b.toNat % 128 := by
  have disjoint := Nat.two_pow_add_eq_or_of_lt (i := 7) (Nat.mod_lt b.toNat (by decide)) n.toNat
  rw [push, UInt64.toNat_or, UInt64.toNat_mul, UInt8.toNat_toUInt64, toNat_low]
  simp only [UInt64.reduceToNat, UInt64.size, Nat.reducePow] at disjoint room ⊢
  rw [Nat.mod_eq_of_lt room, Nat.mul_comm, ← disjoint]

/-- The bit that says that more digits follow. -/
theorem high_bit (b : UInt8) : (b &&& 0x80 != 0) = !decide (b < 0x80) := by
  have all : ∀ n : Fin 256, (UInt8.ofFin n &&& 0x80 != 0) = !decide (UInt8.ofFin n < 0x80) := by
    decide +kernel
  exact all b.toFin

end Words

section Identifiers

/-- The words whose last digits have been seen. -/
def scan (n : UInt64) : List UInt8 → Except Stop (List UInt64)
  | [] => .ok []
  | b :: rest =>
    if UInt64.size ≤ n.toNat * 128 then .error (.refused .arcOverflow)
    else if b &&& 0x80 != 0 then scan (push n b) rest
    else do return push n b :: (← scan 0 rest)

/-- Whether more digits should follow. -/
def isOpen (started : Bool) (bytes : List UInt8) : Bool :=
  (bytes.getLast?.map fun b => b &&& 0x80 != 0).getD started

def split (n : Nat) : Except Stop (List Nat) :=
  if n < 40 then .ok [0, n]
  else if n < 80 then do return [1, ← difference n 40]
  else do return [2, ← difference n 80]

/-- There has to be a first number. -/
def arcs : List Nat → Except Stop Oid
  | [] => .error .outOfBounds
  | first :: rest => do return (← split first) ++ rest

def identifier (bytes : List UInt8) : Except Stop Oid :=
  if bytes.isEmpty then .error (.refused .emptyIdentifier)
  else do
    let words ← scan 0 bytes
    if isOpen false bytes then .error (.refused .truncatedIdentifier) else arcs (words.map UInt64.toNat)

theorem isOpen_cons (started : Bool) (b : UInt8) (rest : List UInt8) :
    isOpen started (b :: rest) = isOpen (b &&& 0x80 != 0) rest := by
  rw [isOpen, isOpen, List.getLast?_cons]
  cases rest.getLast? <;> rfl

/-- The test for open digits may wait until the end. -/
theorem scan_eq (n : UInt64) (started : Bool) (bytes : List UInt8) :
    (scan n bytes >>= fun words =>
        if isOpen started bytes then .error (.refused .truncatedIdentifier)
        else .ok (words.map UInt64.toNat)) =
      (Oid.numbersFrom n.toNat started bytes).mapError Stop.refused := by
  induction bytes generalizing n started with
  | nil => cases started <;> rfl
  | cons b rest ih =>
    rw [scan, Oid.numbersFrom, isOpen_cons]
    by_cases large : UInt64.size ≤ n.toNat * 128
    · rw [if_pos large, if_pos (show Oid.limit ≤ _ from large)]
      rfl
    rw [if_neg large, if_neg (show ¬ Oid.limit ≤ _ from large), high_bit,
      ← toNat_push (Nat.not_le.mp large)]
    by_cases low : b < 0x80
    · simp only [low, decide_true, Bool.not_true, if_true]
      calc
        _ = (Oid.numbersFrom 0 false rest).mapError Stop.refused >>= fun later =>
            .ok ((push n b).toNat :: later) := by
          rw [← UInt64.toNat_zero, ← ih 0 false]
          cases scan 0 rest with
          | error stop => rfl
          | ok words => cases isOpen false rest <;> rfl
        _ = _ := bind_mapError fun _ _ => rfl
    · simp only [low, decide_false, Bool.not_false, if_true, if_false]
      exact ih (push n b) true

theorem split_eq (n : Nat) : split n = .ok (Oid.splitFirst n) := by
  rw [split, Oid.splitFirst]
  by_cases low : n < 40
  · rw [if_pos low, if_pos low]
  rw [if_neg low, if_neg low]
  by_cases middle : n < 80
  · rw [if_pos middle, if_pos middle, difference_eq (Nat.not_lt.mp low)]
    rfl
  · rw [if_neg middle, if_neg middle, difference_eq (Nat.not_lt.mp middle)]
    rfl

theorem arcs_cons (first : Nat) (rest : List Nat) : arcs (first :: rest) = .ok (Oid.splitFirst first ++ rest) := by
  rw [arcs, split_eq]
  rfl

theorem identifier_eq (bytes : List UInt8) : identifier bytes = (Oid.decode bytes).mapError Stop.refused := by
  cases bytes with
  | nil => rfl
  | cons b rest =>
    have some : ¬ (b :: rest).isEmpty = true := Bool.false_ne_true
    calc
      identifier (b :: rest)
        = (Oid.numbersFrom 0 false (b :: rest)).mapError Stop.refused >>= arcs := by
        rw [identifier, if_neg some, ← UInt64.toNat_zero, ← scan_eq 0 false]
        cases scan 0 (b :: rest) with
        | error stop => rfl
        | ok words => cases isOpen false (b :: rest) <;> rfl
      _ = _ := by
        refine bind_mapError fun numbers read => ?_
        cases numbers with
        | nil =>
          -- a byte gives a number or an error
          rcases Oid.exists_of_numbersFrom read with ⟨-, h, -⟩ | ⟨_, _, _, _, _, _, _, _, _, h⟩ <;> cases h
        | cons first rest =>
          rw [arcs_cons]
          rfl

end Identifiers

end Roster.Guarded

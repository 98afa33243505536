import Mathlib.Data.Nat.Digits.Lemmas
import Roster.Proofs.Subject.Word

/-!
# Which bytes are an identifier

Bytes are cut into numbers in one way, behind each byte without the high bit. An identifier is read if and only
if there are numbers, none of them is left open at the end, and all of them are below the limit; the arcs that
are read are those that the numbers stand for, however many zeros lead them.
-/

namespace Roster

theorem Pieces.append {α : Type} {spells : α → List UInt8 → Prop} {xs ys : List α} {bytes more : List UInt8}
    (hx : Pieces spells xs bytes) (hy : Pieces spells ys more) : Pieces spells (xs ++ ys) (bytes ++ more) := by
  induction hx with
  | nil => exact hy
  | cons first later ih =>
    rw [List.append_assoc]
    exact .cons first ih

namespace Oid

/-- The last byte, if there is one, ends a number. -/
def Closed (bytes : List UInt8) : Prop := ∀ b ∈ bytes.getLast?, b < 0x80

/-- The number is spelled somewhere in the bytes, from a place where no other number is open. -/
def Holds (bytes : List UInt8) (n : Nat) : Prop :=
  ∃ before digits after, bytes = before ++ (digits ++ after) ∧ Closed before ∧ SpellsNumber n digits

variable {bytes more : List UInt8} {numbers : List Nat} {n : Nat}

section Closing

theorem closed_nil : Closed [] := fun _ h => nomatch h

theorem Closed.append (hb : Closed bytes) (hm : Closed more) : Closed (bytes ++ more) := by
  intro b mem
  rw [List.getLast?_append] at mem
  cases h : more.getLast? with
  | none =>
    rw [h] at mem
    exact hb b mem
  | some c =>
    rw [h] at mem
    cases mem
    exact hm _ h

theorem Closed.behind (h : Closed (bytes ++ more)) : Closed more := by
  intro b mem
  refine h b ?_
  rw [List.getLast?_append, Option.mem_def.mp mem]
  rfl

theorem SpellsNumber.closed (spelled : SpellsNumber n bytes) : Closed bytes := by
  cases spelled with
  | digits high low value =>
    intro b mem
    rw [List.getLast?_append] at mem
    cases mem
    exact low

theorem closed_of_pieces (cut : Pieces SpellsNumber numbers bytes) : Closed bytes := by
  induction cut with
  | nil => exact closed_nil
  | cons first later ih => exact first.closed.append ih

end Closing

section Cutting

theorem first_digits_unique {front front' s t : List UInt8} {last last' : UInt8}
    (high : ∀ b ∈ front, ¬ b < 0x80) (low : last < 0x80) (high' : ∀ b ∈ front', ¬ b < 0x80)
    (low' : last' < 0x80) (h : front ++ last :: s = front' ++ last' :: t) :
    front = front' ∧ last = last' ∧ s = t := by
  induction front generalizing front' with
  | nil =>
    cases front' with
    | nil => exact ⟨rfl, List.cons.inj h⟩
    | cons b front' =>
      obtain ⟨rfl, -⟩ := List.cons.inj h
      exact absurd low (high' _ List.mem_cons_self)
  | cons b front ih =>
    cases front' with
    | nil =>
      obtain ⟨rfl, -⟩ := List.cons.inj h
      exact absurd low' (high _ List.mem_cons_self)
    | cons c front' =>
      obtain ⟨rfl, behind⟩ := List.cons.inj h
      obtain ⟨-, high⟩ := List.forall_mem_cons.mp high
      obtain ⟨-, high'⟩ := List.forall_mem_cons.mp high'
      obtain ⟨rfl, same⟩ := ih high high' behind
      exact ⟨rfl, same⟩

theorem SpellsNumber.append_inj {m : Nat} {p q s t : List UInt8} (hp : SpellsNumber m p)
    (hq : SpellsNumber n q) (h : p ++ s = q ++ t) : m = n ∧ s = t := by
  cases hp with
  | digits high low value =>
    cases hq with
    | digits high' low' value' =>
      simp only [List.append_assoc, List.singleton_append] at h
      obtain ⟨rfl, rfl, rfl⟩ := first_digits_unique high low high' low' h
      exact ⟨value.symm.trans value', rfl⟩

theorem SpellsNumber.ne_nil (spelled : SpellsNumber n bytes) : bytes ≠ [] := by
  cases spelled
  simp

theorem ne_nil_of_pieces (cut : Pieces SpellsNumber numbers bytes) (some : numbers ≠ []) : bytes ≠ [] := by
  cases cut with
  | nil => exact absurd rfl some
  | cons first later => exact List.append_ne_nil_of_left_ne_nil first.ne_nil _

theorem pieces_unique {numbers' : List Nat} (cut : Pieces SpellsNumber numbers bytes)
    (cut' : Pieces SpellsNumber numbers' bytes) : numbers = numbers' := by
  induction cut generalizing numbers' with
  | nil =>
    by_contra some
    exact ne_nil_of_pieces cut' (Ne.symm some) rfl
  | @cons n numbers piece bytes first later ih =>
    generalize whole : piece ++ bytes = all at cut'
    cases cut' with
    | nil => exact absurd (List.append_eq_nil_iff.mp whole).1 first.ne_nil
    | cons first' later' =>
      obtain ⟨rfl, rfl⟩ := first.append_inj first' whole
      rw [ih later']

theorem exists_pieces (closed : Closed bytes) : ∃ numbers, Pieces SpellsNumber numbers bytes := by
  induction bytes with
  | nil => exact ⟨[], .nil⟩
  | cons b rest ih =>
    obtain ⟨numbers, cut⟩ := ih (Closed.behind (show Closed ([b] ++ rest) from closed))
    by_cases low : b < 0x80
    · exact ⟨_, .cons (.single b low) cut⟩
    -- a byte with the high bit joins the number behind it, and there is one
    cases cut with
    | nil => exact absurd (closed b rfl) low
    | cons first later =>
      cases first with
      | digits high last value =>
        exact ⟨_, .cons (.digits (List.forall_mem_cons.mpr ⟨low, high⟩) last rfl) later⟩

theorem holds_iff (cut : Pieces SpellsNumber numbers bytes) : Holds bytes n ↔ n ∈ numbers := by
  constructor
  · rintro ⟨before, digits, after, rfl, closed, spelled⟩
    obtain ⟨first, hfirst⟩ := exists_pieces closed
    obtain ⟨last, hlast⟩ := exists_pieces ((closed_of_pieces cut).behind.behind)
    rw [pieces_unique cut (hfirst.append (.cons spelled hlast))]
    exact List.mem_append_right first List.mem_cons_self
  · intro mem
    induction cut with
    | nil => cases mem
    | @cons m numbers piece bytes first later ih =>
      rcases List.mem_cons.mp mem with rfl | mem
      · exact ⟨[], piece, bytes, rfl, closed_nil, first⟩
      · obtain ⟨before, digits, after, rfl, closed, spelled⟩ := ih mem
        exact ⟨piece ++ before, digits, after, by rw [List.append_assoc], first.closed.append closed, spelled⟩

end Cutting

/-- What an identifier needs to be read. -/
theorem exists_decode_iff : (∃ oid, decode bytes = .ok oid) ↔
    bytes ≠ [] ∧ Closed bytes ∧ ∀ n, Holds bytes n → n < limit := by
  simp only [decode_eq_ok_iff]
  constructor
  · rintro ⟨oid, numbers, numbered, fit, cut⟩
    refine ⟨ne_nil_of_pieces cut ?_, closed_of_pieces cut, fun n held => fit n ((holds_iff cut).mp held)⟩
    cases numbered
    exact List.cons_ne_nil _ _
  · rintro ⟨some, closed, fit⟩
    obtain ⟨numbers, cut⟩ := exists_pieces closed
    cases numbers with
    | nil =>
      cases cut
      exact absurd rfl some
    | cons first rest =>
      obtain ⟨root, second, -, shared, rfl⟩ := exists_splitFirst first
      exact ⟨_, _, .arcs shared rest, fun n mem => fit n ((holds_iff cut).mpr mem), cut⟩

section Shortest

/-- The digits of a number without leading zeros. -/
def digits (n : Nat) : List UInt8 :=
  ((Nat.digits 128 (n / 128)).reverse.map fun d => UInt8.ofNat (128 + d)) ++ [UInt8.ofNat (n % 128)]

theorem valueFrom_append (n : Nat) (front back : List UInt8) :
    valueFrom n (front ++ back) = valueFrom (valueFrom n front) back := List.foldl_append

theorem valueFrom_map {front : List Nat} (small : ∀ d ∈ front, d < 128) (n : Nat) :
    valueFrom n (front.map fun d => UInt8.ofNat (128 + d)) = front.foldl (fun m d => m * 128 + d) n := by
  induction front generalizing n with
  | nil => rfl
  | cons d front ih =>
    obtain ⟨first, later⟩ := List.forall_mem_cons.mp small
    have digit : (UInt8.ofNat (128 + d)).toNat % 128 = d := by
      rw [UInt8.toNat_ofNat']
      omega
    rw [List.map_cons, valueFrom, List.foldl_cons, digit, ← valueFrom, ih later, List.foldl_cons]

theorem spells_digits (n : Nat) : SpellsNumber n (digits n) := by
  have small : ∀ d ∈ (Nat.digits 128 (n / 128)).reverse, d < 128 := fun d mem =>
    Nat.digits_lt_base (by decide) (List.mem_reverse.mp mem)
  refine .digits ?_ ?_ ?_
  · intro b mem
    obtain ⟨d, hd, rfl⟩ := List.mem_map.mp mem
    have := small d hd
    rw [UInt8.lt_iff_toNat_lt, UInt8.toNat_ofNat']
    simp only [UInt8.reduceToNat]
    omega
  · rw [UInt8.lt_iff_toNat_lt, UInt8.toNat_ofNat']
    simp only [UInt8.reduceToNat]
    omega
  · have front := valueFrom_map small 0
    rw [List.foldl_reverse] at front
    have value : (Nat.digits 128 (n / 128)).foldr (fun d m => m * 128 + d) 0 = n / 128 :=
      calc
        _ = Nat.ofDigits 128 (Nat.digits 128 (n / 128)) := by
          simp only [Nat.ofDigits_eq_foldr, Nat.cast_id, Nat.add_comm, Nat.mul_comm]
        _ = n / 128 := Nat.ofDigits_digits 128 (n / 128)
    rw [valueFrom_append, front, value, valueFrom, List.foldl_cons, List.foldl_nil, UInt8.toNat_ofNat']
    omega

theorem pieces_digits (numbers : List Nat) : Pieces SpellsNumber numbers (numbers.flatMap digits) := by
  induction numbers with
  | nil => exact .nil
  | cons n numbers ih => exact .cons (spells_digits n) ih

end Shortest

/-- Identifiers are read if and only if they have numbers, all of them complete and below the limit. The arcs are
those that share the first number and those that the other numbers are, with or without leading zeros, and a
reader with words of sixty-four bits gives the same. -/
theorem decoding_is_exact :
    (∀ bytes, (∃ oid, decode bytes = .ok oid) ↔
      bytes ≠ [] ∧ Closed bytes ∧ ∀ n, Holds bytes n → n < 2 ^ 64) ∧
    (∀ (root second : Nat) (rest : List Nat), (root < 2 ∧ second < 40 ∨ root = 2) →
      (∀ n ∈ (root * 40 + second) :: rest, n < 2 ^ 64) →
      (decode (((root * 40 + second) :: rest).flatMap digits)).map text =
        .ok (".".intercalate ((root :: second :: rest).map toString)) ∧
      ∀ bytes, decode bytes = .ok (root :: second :: rest) ↔
        Pieces SpellsNumber ((root * 40 + second) :: rest) bytes) ∧
    ∀ bytes, Guarded.identifier bytes = (decode bytes).mapError .refused := by
  refine ⟨fun bytes => exists_decode_iff, fun root second rest shared fit => ?_, Guarded.identifier_eq⟩
  have read : ∀ bytes, decode bytes = .ok (root :: second :: rest) ↔
      Pieces SpellsNumber ((root * 40 + second) :: rest) bytes := by
    intro bytes
    rw [decode_eq_ok_iff]
    constructor
    · rintro ⟨numbers, numbered, -, cut⟩
      cases numbered
      exact cut
    · exact fun cut => ⟨_, .arcs shared rest, fit, cut⟩
  refine ⟨?_, read⟩
  rw [(read _).mpr (pieces_digits _)]
  rfl

/-- The largest number, behind a leading zero. -/
def largest : List UInt8 := [0x80, 0x81, 0xff, 0xff, 0xff, 0xff, 0xff, 0xff, 0xff, 0xff] ++ [0x7f]

def tooLarge : List UInt8 := [0x82, 0x80, 0x80, 0x80, 0x80, 0x80, 0x80, 0x80, 0x80] ++ [0x00]

theorem largest_spelled : SpellsNumber 18446744073709551615 largest :=
  .digits (by decide +kernel) (by decide) (by decide +kernel)

theorem tooLarge_spelled : SpellsNumber 18446744073709551616 tooLarge :=
  .digits (by decide +kernel) (by decide) (by decide +kernel)

/-- The second arc may be as large as the first number allows, and no larger. -/
theorem largest_arc_is_decoded :
    (∀ n ∈ [2 * 40 + 18446744073709551535, 3], n < 2 ^ 64) ∧
      (decode ([2 * 40 + 18446744073709551535, 3].flatMap digits)).map text = .ok "2.18446744073709551535.3" ∧
      decode (largest ++ [3]) = .ok [2, 18446744073709551535, 3] ∧
      ¬ ∃ oid, decode (tooLarge ++ [3]) = .ok oid := by
  obtain ⟨succeeds, arcs, -⟩ := decoding_is_exact
  have fit : ∀ n ∈ [2 * 40 + 18446744073709551535, 3], n < 2 ^ 64 := by decide
  obtain ⟨written, read⟩ := arcs 2 18446744073709551535 [3] (Or.inr rfl) fit
  refine ⟨fit, written.trans (by decide +kernel), ?_, ?_⟩
  · exact (read _).mpr (.cons largest_spelled (.cons (SpellsNumber.single 3 (by decide)) .nil))
  · intro found
    obtain ⟨-, -, small⟩ := (succeeds _).mp found
    have held : Holds (tooLarge ++ [3]) 18446744073709551616 :=
      ⟨[], tooLarge, [3], rfl, closed_nil, tooLarge_spelled⟩
    exact absurd (small _ held) (by decide)

end Oid

end Roster

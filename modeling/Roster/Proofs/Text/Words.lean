import Mathlib.Algebra.GroupWithZero.Nat
import Roster.Text.Blank

/-!
# Words of a line

Pieces that are free of separators are cut out of a text as they were put into it. So words that
are joined by single spaces come back as they are.
-/

namespace Roster

section Pieces

variable {α : Type} {separates : α → Bool} {piece : List α}

/-- A piece ends at its separator. -/
theorem pieces_append_cons (free : ∀ x ∈ piece, separates x = false) {separator : α}
    (stop : separates separator = true) (rest : List α) :
    pieces separates (piece ++ separator :: rest) = piece :: pieces separates rest := by
  induction piece with
  | nil => simp [pieces_cons, stop]
  | cons x piece ih =>
    obtain ⟨first, later⟩ := List.forall_mem_cons.mp free
    rw [List.cons_append, pieces_cons, ih later, if_neg (Bool.eq_false_iff.mp first)]
    rfl

theorem pieces_of_free (free : ∀ x ∈ piece, separates x = false) :
    pieces separates piece = [piece] := by
  induction piece with
  | nil => rfl
  | cons x piece ih =>
    obtain ⟨first, later⟩ := List.forall_mem_cons.mp free
    rw [pieces_cons, ih later, if_neg (Bool.eq_false_iff.mp first)]
    rfl

/-- What follows a text belongs to its last piece at first. -/
theorem pieces_append {xs : List α} {front : List (List α)} {last : List α}
    (cut : pieces separates xs = front ++ [last]) (ys : List α) :
    pieces separates (xs ++ ys) = front ++ pieces separates (last ++ ys) := by
  induction xs generalizing front last with
  | nil =>
    cases front with
    | nil =>
      obtain rfl : [] = last := (List.cons.inj cut).1
      rfl
    | cons p ps => simp at cut
  | cons x xs ih =>
    rw [pieces_cons] at cut
    rw [List.cons_append, pieces_cons]
    by_cases hx : separates x = true
    · rw [if_pos hx] at cut ⊢
      cases front with
      | nil => exact absurd (List.cons.inj cut).2 (pieces_ne_nil separates xs)
      | cons p ps =>
        obtain ⟨rfl, later⟩ := List.cons.inj cut
        rw [ih later]
        rfl
    · rw [if_neg hx] at cut ⊢
      cases rest : pieces separates xs with
      | nil => exact absurd rest (pieces_ne_nil separates xs)
      | cons p ps =>
        rw [rest] at cut ih
        cases front with
        | nil =>
          obtain ⟨rfl, rfl⟩ := List.cons.inj cut
          rw [@ih [] _ rfl, List.nil_append, List.nil_append, List.cons_append, pieces_cons, if_neg hx]
        | cons q qs =>
          obtain ⟨rfl, rfl⟩ := List.cons.inj cut
          rw [@ih (p :: qs) _ rfl]
          rfl

/-- The first of several pieces ends at a separator, and the others are those of what is behind it. -/
theorem split_of_pieces {xs : List α} {more : List (List α)} (cut : pieces separates xs = piece :: more)
    (several : more ≠ []) : ∃ separator behind, xs = piece ++ separator :: behind ∧
      separates separator = true ∧ pieces separates behind = more := by
  induction xs generalizing piece with
  | nil => exact absurd (List.cons.inj cut).2.symm several
  | cons x xs ih =>
    rw [pieces_cons] at cut
    by_cases hx : separates x = true
    · rw [if_pos hx] at cut
      obtain ⟨rfl, later⟩ := List.cons.inj cut
      exact ⟨x, xs, rfl, hx, later⟩
    · rw [if_neg hx] at cut
      cases rest : pieces separates xs with
      | nil => exact absurd rest (pieces_ne_nil separates xs)
      | cons p ps =>
        rw [rest] at cut ih
        obtain ⟨rfl, rfl⟩ := List.cons.inj cut
        obtain ⟨separator, behind, rfl, stop, later⟩ := ih rfl
        exact ⟨separator, behind, rfl, stop, later⟩

theorem eq_of_pieces {xs : List α} (cut : pieces separates xs = [piece]) : xs = piece := by
  induction xs generalizing piece with
  | nil => exact (List.cons.inj cut).1
  | cons x xs ih =>
    rw [pieces_cons] at cut
    by_cases hx : separates x = true
    · rw [if_pos hx] at cut
      exact absurd (List.cons.inj cut).2 (pieces_ne_nil separates xs)
    · rw [if_neg hx] at cut
      cases rest : pieces separates xs with
      | nil => exact absurd rest (pieces_ne_nil separates xs)
      | cons p ps =>
        rw [rest] at cut ih
        obtain ⟨rfl, rfl⟩ := List.cons.inj cut
        rw [ih rfl]

theorem sum_length_pieces (separates : α → Bool) (xs : List α) :
    ((pieces separates xs).map fun p => p.length + 1).sum = xs.length + 1 := by
  induction xs with
  | nil => rfl
  | cons x xs ih =>
    rw [pieces_cons, List.length_cons]
    split
    · rw [List.map_cons, List.sum_cons, ih, List.length_nil]
      omega
    · cases rest : pieces separates xs with
      | nil => exact absurd rest (pieces_ne_nil separates xs)
      | cons p ps =>
        rw [rest, List.map_cons, List.sum_cons] at ih
        rw [consFirst, List.map_cons, List.sum_cons, List.length_cons]
        omega

theorem headD_pieces (separates : α → Bool) (xs : List α) :
    (pieces separates xs).headD [] = xs.takeWhile (fun x => !separates x) := by
  induction xs with
  | nil => rfl
  | cons x xs ih =>
    rw [pieces_cons]
    by_cases hx : separates x
    · simp [hx]
    · cases h : pieces separates xs with
      | nil => exact absurd h (pieces_ne_nil separates xs)
      | cons p ps =>
        rw [h] at ih
        simpa [hx, consFirst] using ih

/-- No separator is left in a piece. -/
theorem free_of_mem_pieces {xs : List α} (h : piece ∈ pieces separates xs) :
    ∀ x ∈ piece, separates x = false := by
  induction xs generalizing piece with
  | nil =>
    obtain rfl := List.mem_singleton.mp h
    exact List.forall_mem_nil _
  | cons x xs ih =>
    rw [pieces_cons] at h
    split at h
    · rcases List.mem_cons.mp h with rfl | h
      · exact List.forall_mem_nil _
      · exact ih h
    · rename_i passes
      cases rest : pieces separates xs with
      | nil => exact absurd rest (pieces_ne_nil separates xs)
      | cons first later =>
        rw [rest] at h ih
        rcases List.mem_cons.mp h with rfl | h
        · exact List.forall_mem_cons.mpr ⟨Bool.eq_false_iff.mpr passes, ih List.mem_cons_self⟩
        · exact ih (List.mem_cons_of_mem first h)

theorem le_length_piece (free : ∀ x ∈ piece, separates x = false) (rest : List α) :
    ∃ first ∈ pieces separates (piece ++ rest), piece.length ≤ first.length := by
  have first := headD_pieces separates (piece ++ rest)
  rw [List.takeWhile_append_of_pos fun x hx => by simp [free x hx]] at first
  cases h : pieces separates (piece ++ rest) with
  | nil => exact absurd h (pieces_ne_nil separates _)
  | cons p ps =>
    rw [h] at first
    refine ⟨p, List.mem_cons_self, ?_⟩
    rw [show p = _ from first, List.length_append]
    exact Nat.le_add_right _ _

theorem intercalate_cons (separator : α) (x : List α) (xs : List (List α)) :
    [separator].intercalate (x :: xs) = x ++ xs.flatMap (separator :: ·) := by
  induction xs generalizing x with
  | nil => simp
  | cons y ys ih => simp [List.intercalate_cons_cons, ih]

theorem mem_intercalate {separator a : α} {xs : List (List α)} (h : a ∈ [separator].intercalate xs) :
    a = separator ∨ ∃ x ∈ xs, a ∈ x := by
  cases xs with
  | nil => cases h
  | cons x xs =>
    rw [intercalate_cons, List.mem_append, List.mem_flatMap] at h
    rcases h with here | ⟨y, hy, there⟩
    · exact Or.inr ⟨x, List.mem_cons_self, here⟩
    · exact (List.mem_cons.mp there).imp_right fun inside => ⟨y, List.mem_cons_of_mem x hy, inside⟩

end Pieces

/-- The characters of ASCII that are seen. -/
def IsVisible (c : Char) : Prop := 32 < c.toNat ∧ c.toNat < 127

instance (c : Char) : Decidable (IsVisible c) := inferInstanceAs (Decidable (_ ∧ _))

theorem IsVisible.isBlank_eq {c : Char} (h : IsVisible c) : isBlank c = false := by
  obtain ⟨above, below⟩ := h
  simp only [isBlank, Bool.or_eq_false_iff, Bool.and_eq_false_iff, decide_eq_false_iff_not, beq_eq_false_iff_ne]
  omega

/-- A text of visible characters, and with something in it. -/
structure IsWord (w : String) : Prop where
  nonempty : w.toList ≠ []
  visible : ∀ c ∈ w.toList, IsVisible c

theorem isWord_iff {w : String} :
    IsWord w ↔ w.toList ≠ [] ∧ (w.toList.all fun c => decide (IsVisible c)) = true := by
  rw [List.all_eq_true]
  constructor
  · intro h
    exact ⟨h.nonempty, fun c mem => decide_eq_true (h.visible c mem)⟩
  · rintro ⟨nonempty, visible⟩
    exact ⟨nonempty, fun c mem => of_decide_eq_true (visible c mem)⟩

instance (w : String) : Decidable (IsWord w) := decidable_of_iff _ isWord_iff.symm

namespace IsWord

variable {w : String}

theorem unblank (hw : IsWord w) : ∀ c ∈ w.toList, isBlank c = false :=
  fun c mem => (hw.visible c mem).isBlank_eq

theorem words_append (hw : IsWord w) (rest : String) : words (w ++ (" " ++ rest)) = w :: words rest := by
  have spaced : (w ++ (" " ++ rest)).toList = w.toList ++ ' ' :: rest.toList := by simp
  have full : (!w.toList.isEmpty) = true := by simpa using hw.nonempty
  rw [words, spaced, pieces_append_cons hw.unblank (by decide), List.filter_cons, if_pos full,
    List.map_cons, String.ofList_toList]
  rfl

theorem words_eq (hw : IsWord w) : words w = [w] := by
  have full : (!w.toList.isEmpty) = true := by simpa using hw.nonempty
  rw [words, pieces_of_free hw.unblank, List.filter_cons, if_pos full, List.map_cons,
    String.ofList_toList]
  rfl

end IsWord

end Roster

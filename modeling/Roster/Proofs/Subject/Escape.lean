import Roster.Proofs.Text.Words
import Roster.Subject.Escape

/-!
# What escaping keeps apart

An escaped value can be read back, and the characters that separate values occur in it only behind
a backslash. So a text that is put together of escaped values and separators comes apart in one way.
-/

namespace Roster.Escape

/-- Drops the backslash in front of each character that has one. -/
def unescape : List Char → List Char
  | [] => []
  | [c] => [c]
  | c :: d :: rest => if c = '\\' then d :: unescape rest else c :: unescape (d :: rest)

theorem unescape_mark {escaped : Bool} {c : Char} (backslash : c = '\\' → escaped = true)
    (rest : List Char) : unescape (mark escaped c rest) = c :: unescape rest := by
  cases escaped with
  | true => rfl
  | false =>
    have ne : c ≠ '\\' := fun h => Bool.false_ne_true (backslash h)
    cases rest with
    | nil => rfl
    | cons d rest => exact if_neg ne

theorem tail_cons (c : Char) (rest : List Char) :
    tail (c :: rest) = mark (isSpecial c || (c == ' ' && (tail rest).isEmpty)) c (tail rest) := rfl

theorem unescape_tail (cs : List Char) : unescape (tail cs) = cs := by
  induction cs with
  | nil => rfl
  | cons c rest ih =>
    rw [tail_cons, unescape_mark ?_, ih]
    rintro rfl
    rfl

/-- An escaped value is read back by dropping the backslashes. -/
theorem unescape_encode (cs : List Char) : unescape (encode cs) = cs := by
  cases cs with
  | nil => rfl
  | cons c rest =>
    rw [encode, unescape_mark ?_, unescape_tail]
    rintro rfl
    rfl

theorem encode_injective {v w : List Char} (h : encode v = encode w) : v = w := by
  rw [← unescape_encode v, h, unescape_encode]

/-- The number sign that stands before the digits of a raw value does not begin an escaped one. -/
theorem encode_ne_cons (v rest : List Char) : encode v ≠ '#' :: rest := by
  intro h
  cases v with
  | nil => cases h
  | cons c v =>
    rw [encode, mark] at h
    split at h
    · cases h
    · rename_i plain
      obtain ⟨rfl, -⟩ := List.cons.inj h
      exact plain rfl

/-- Some characters occur only behind a backslash, which is itself always followed by one. -/
inductive Sealed (stops : Char → Bool) : List Char → Prop
  | nil : Sealed stops []
  | pair (c : Char) {rest : List Char} (sealed : Sealed stops rest) : Sealed stops ('\\' :: c :: rest)
  | plain {c : Char} {rest : List Char} (ne : c ≠ '\\') (passes : stops c = false)
      (sealed : Sealed stops rest) : Sealed stops (c :: rest)

variable {stops : Char → Bool} {v w t u : List Char}

theorem sealed_of_plain (h : ∀ c ∈ v, c ≠ '\\' ∧ stops c = false) : Sealed stops v := by
  induction v with
  | nil => exact .nil
  | cons c rest ih =>
    obtain ⟨first, later⟩ := List.forall_mem_cons.mp h
    exact .plain first.1 first.2 (ih later)

theorem Sealed.append (hv : Sealed stops v) (hw : Sealed stops w) : Sealed stops (v ++ w) := by
  induction hv with
  | nil => exact hw
  | pair c _ ih => exact .pair c ih
  | plain ne passes _ ih => exact .plain ne passes ih

theorem Sealed.mark {c : Char} {escaped : Bool} (h : escaped = false → c ≠ '\\' ∧ stops c = false)
    (hv : Sealed stops v) : Sealed stops (mark escaped c v) := by
  cases escaped with
  | true => exact .pair c hv
  | false => exact .plain (h rfl).1 (h rfl).2 hv

theorem Sealed.mono {fewer : Char → Bool} (h : ∀ c, fewer c = true → stops c = true)
    (hv : Sealed stops v) : Sealed fewer v := by
  induction hv with
  | nil => exact .nil
  | pair c _ ih => exact .pair c ih
  | plain ne passes _ ih =>
    exact .plain ne (Bool.eq_false_iff.mpr fun stop => Bool.eq_false_iff.mp passes (h _ stop)) ih

/-- A character that is left as it is has no special meaning. -/
theorem plain_of_not_special (special : ∀ c, stops c = true → isSpecial c = true) {c : Char}
    {more : Bool} (h : (isSpecial c || more) = false) : c ≠ '\\' ∧ stops c = false := by
  have plain : isSpecial c = false := (Bool.or_eq_false_iff.mp h).1
  refine ⟨?_, ?_⟩
  · rintro rfl
    cases plain
  · exact Bool.eq_false_iff.mpr fun stop => Bool.eq_false_iff.mp plain (special c stop)

theorem sealed_tail (special : ∀ c, stops c = true → isSpecial c = true) (cs : List Char) :
    Sealed stops (tail cs) := by
  induction cs with
  | nil => exact .nil
  | cons c rest ih => exact ih.mark (plain_of_not_special special)

theorem sealed_encode (special : ∀ c, stops c = true → isSpecial c = true) (cs : List Char) :
    Sealed stops (encode cs) := by
  cases cs with
  | nil => exact .nil
  | cons c rest =>
    refine (sealed_tail special rest).mark fun h => ?_
    rw [Bool.or_assoc] at h
    exact plain_of_not_special special h

/-- What stands behind a sealed text: nothing, or a stop. -/
def Stopped (stops : Char → Bool) (cs : List Char) : Prop := ∀ c rest, cs = c :: rest → stops c = true

theorem stopped_nil : Stopped stops [] := fun _ _ h => nomatch h

theorem stopped_cons {c : Char} (h : stops c = true) (rest : List Char) : Stopped stops (c :: rest) := by
  rintro _ _ ⟨⟩
  exact h

/-- A text ends at its first bare stop, so it does not depend on what stands behind. -/
theorem Sealed.append_inj (backslash : stops '\\' = false) (hv : Sealed stops v) (hw : Sealed stops w)
    (ht : Stopped stops t) (hu : Stopped stops u) (h : v ++ t = w ++ u) : v = w ∧ t = u := by
  induction hv generalizing w with
  | nil =>
    cases hw with
    | nil => exact ⟨rfl, h⟩
    | pair c _ => cases (ht _ _ h).symm.trans backslash
    | plain _ passes _ => cases (ht _ _ h).symm.trans passes
  | pair c _ ih =>
    cases hw with
    | nil => cases (hu _ _ h.symm).symm.trans backslash
    | pair d hw =>
      simp only [List.cons_append, List.cons.injEq, true_and] at h
      obtain ⟨rfl, same⟩ := h
      obtain ⟨rfl, behind⟩ := ih hw same
      exact ⟨rfl, behind⟩
    | plain ne _ _ => exact absurd (List.cons.inj h).1.symm ne
  | plain ne passes _ ih =>
    cases hw with
    | nil => cases (hu _ _ h.symm).symm.trans passes
    | pair d _ => exact absurd (List.cons.inj h).1 ne
    | plain _ _ hw =>
      simp only [List.cons_append, List.cons.injEq] at h
      obtain ⟨rfl, same⟩ := h
      obtain ⟨rfl, behind⟩ := ih hw same
      exact ⟨rfl, behind⟩

/-- Sealed pieces, each behind a separator. -/
theorem flatMap_inj {separator : Char} (backslash : separator ≠ '\\') {xs ys : List (List Char)}
    (hx : ∀ x ∈ xs, Sealed (· == separator) x) (hy : ∀ y ∈ ys, Sealed (· == separator) y)
    (h : xs.flatMap (separator :: ·) = ys.flatMap (separator :: ·)) : xs = ys := by
  have stopped : ∀ zs : List (List Char), Stopped (· == separator) (zs.flatMap (separator :: ·)) := by
    intro zs
    cases zs with
    | nil => exact stopped_nil
    | cons z zs =>
      refine stopped_cons ?_ _
      exact beq_self_eq_true separator
  induction xs generalizing ys with
  | nil =>
    cases ys with
    | nil => rfl
    | cons y ys => cases h
  | cons x xs ih =>
    cases ys with
    | nil => cases h
    | cons y ys =>
      obtain ⟨first, later⟩ := List.forall_mem_cons.mp hx
      obtain ⟨first', later'⟩ := List.forall_mem_cons.mp hy
      obtain ⟨rfl, rest⟩ := first.append_inj (by simpa using backslash.symm) first' (stopped xs)
        (stopped ys) (List.cons.inj h).2
      rw [ih later later' rest]

theorem sealed_intercalate {separator : Char} (ne : separator ≠ '\\') (passes : stops separator = false)
    {xs : List (List Char)} (hx : ∀ x ∈ xs, Sealed stops x) : Sealed stops ([separator].intercalate xs) := by
  cases xs with
  | nil => exact .nil
  | cons x xs =>
    obtain ⟨first, later⟩ := List.forall_mem_cons.mp hx
    rw [intercalate_cons]
    refine first.append ?_
    clear hx first
    induction xs with
    | nil => exact .nil
    | cons y ys ih =>
      obtain ⟨hy, hys⟩ := List.forall_mem_cons.mp later
      exact .plain ne passes (hy.append (ih hys))

/-- A text that is joined of sealed pieces, none of them empty, comes apart in one way. -/
theorem intercalate_inj {separator : Char} (backslash : separator ≠ '\\') {xs ys : List (List Char)}
    (hx : ∀ x ∈ xs, x ≠ [] ∧ Sealed (· == separator) x)
    (hy : ∀ y ∈ ys, y ≠ [] ∧ Sealed (· == separator) y)
    (h : [separator].intercalate xs = [separator].intercalate ys) : xs = ys := by
  cases xs with
  | nil =>
    cases ys with
    | nil => rfl
    | cons y ys =>
      rw [intercalate_cons] at h
      exact absurd (List.append_eq_nil_iff.mp h.symm).1 (hy y List.mem_cons_self).1
  | cons x xs =>
    cases ys with
    | nil =>
      rw [intercalate_cons] at h
      exact absurd (List.append_eq_nil_iff.mp h).1 (hx x List.mem_cons_self).1
    | cons y ys =>
      refine flatMap_inj backslash (fun z hz => (hx z hz).2) (fun z hz => (hy z hz).2) ?_
      rw [intercalate_cons, intercalate_cons] at h
      exact congrArg (separator :: ·) h

end Roster.Escape

/-! # Cutting a list at separators

The cut keeps every element that is no separator, in order, and gives one piece more than
there are separators. -/

namespace Roster

variable {α : Type}

/-- Puts `x` in front of the first piece. -/
def consFirst (x : α) : List (List α) → List (List α)
  | [] => [[x]]
  | p :: ps => (x :: p) :: ps

def pieces (isSeparator : α → Bool) (xs : List α) : List (List α) :=
  xs.foldr (fun x ps => if isSeparator x then [] :: ps else consFirst x ps) [[]]

@[simp] theorem pieces_nil (isSeparator : α → Bool) : pieces isSeparator [] = [[]] := rfl

theorem pieces_cons (isSeparator : α → Bool) (x : α) (xs : List α) :
    pieces isSeparator (x :: xs) =
      if isSeparator x then [] :: pieces isSeparator xs
      else consFirst x (pieces isSeparator xs) := rfl

theorem pieces_ne_nil (isSeparator : α → Bool) (xs : List α) : pieces isSeparator xs ≠ [] := by
  cases xs with
  | nil => simp
  | cons x xs =>
    rw [pieces_cons]
    split
    · simp
    · cases pieces isSeparator xs <;> simp [consFirst]

end Roster

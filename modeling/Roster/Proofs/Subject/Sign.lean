import Roster.Proofs.Subject.Escape

/-!
# Which characters are escaped

A text is a row of signs: a character by itself, or a backslash together with the character that it introduces.
There is one row to a text as long as no backslash stands by itself. The row of an escaped value has a sign for
each character of the value, in order, and the place of a character decides whether it is introduced.
-/

namespace Roster.Escape

structure Sign where
  char : Char
  introduced : Bool
  deriving DecidableEq, Repr

namespace Sign

def written (s : Sign) : List Char := mark s.introduced s.char []

/-- A backslash by itself would introduce what stands behind it. -/
def Clear (s : Sign) : Prop := s.char = '\\' → s.introduced = true

end Sign

/-- Cuts a text into its signs. -/
def signs : List Char → List Sign
  | [] => []
  | [c] => [⟨c, false⟩]
  | c :: d :: rest => if c = '\\' then ⟨d, true⟩ :: signs rest else ⟨c, false⟩ :: signs (d :: rest)

/-- The characters that have to be introduced at a place of a value of that length. -/
def Needs (length place : Nat) (c : Char) : Prop :=
  c ∈ [',', '+', '"', '\\', '<', '>', ';'] ∨ (place = 0 ∧ (c = ' ' ∨ c = '#')) ∨
    (place + 1 = length ∧ c = ' ')

instance (length place : Nat) (c : Char) : Decidable (Needs length place c) :=
  inferInstanceAs (Decidable (_ ∨ _))

/-- The sign that a character needs at its place. -/
def needed (length place : Nat) (c : Char) : Sign := ⟨c, decide (Needs length place c)⟩

section Rows

variable {cs : List Char} {row : List Sign}

theorem mark_append (introduced : Bool) (c : Char) (cs rest : List Char) :
    mark introduced c cs ++ rest = mark introduced c (cs ++ rest) := by
  cases introduced <;> rfl

theorem map_char_signs (cs : List Char) : (signs cs).map Sign.char = unescape cs := by
  fun_induction signs cs with
  | case1 => rfl
  | case2 c => rfl
  | case3 d rest ih => simp [unescape, ih]
  | case4 c d rest plain ih => simp [unescape, plain, ih]

/-- Nothing gets lost between the signs. -/
theorem flatMap_written_signs (cs : List Char) : (signs cs).flatMap Sign.written = cs := by
  fun_induction signs cs with
  | case1 => rfl
  | case2 c => rfl
  | case3 d rest ih => simp [Sign.written, mark, ih]
  | case4 c d rest plain ih => simp [Sign.written, mark, ih]

theorem signs_mark {introduced : Bool} {c : Char} (clear : Sign.Clear ⟨c, introduced⟩) (rest : List Char) :
    signs (mark introduced c rest) = ⟨c, introduced⟩ :: signs rest := by
  cases introduced with
  | true => simp [mark, signs]
  | false =>
    have plain : c ≠ '\\' := fun h => Bool.false_ne_true (clear h)
    cases rest with
    | nil => rfl
    | cons d rest => simp [mark, signs, plain]

/-- A row without a backslash by itself is the row of the text that it makes. -/
theorem signs_flatMap_written (clear : ∀ s ∈ row, s.Clear) : signs (row.flatMap Sign.written) = row := by
  induction row with
  | nil => rfl
  | cons s row ih =>
    obtain ⟨first, later⟩ := List.forall_mem_cons.mp clear
    simp only [List.flatMap_cons, Sign.written, mark_append, List.nil_append]
    rw [signs_mark first, ih later]

end Rows

theorem clear_of_special (c : Char) (more : Bool) : Sign.Clear ⟨c, isSpecial c || more⟩ := by
  rintro rfl
  rfl

theorem isEmpty_tail (cs : List Char) : (tail cs).isEmpty = cs.isEmpty := by
  cases cs with
  | nil => rfl
  | cons c rest =>
    rw [tail_cons, mark]
    split <;> rfl

/-- Behind the first character only the last one is treated apart. -/
theorem getElem?_signs_tail (cs : List Char) (i : Nat) :
    (signs (tail cs))[i]? = cs[i]?.map fun c => ⟨c, isSpecial c || (c == ' ' && i + 1 == cs.length)⟩ := by
  induction cs generalizing i with
  | nil => rfl
  | cons c rest ih =>
    rw [tail_cons, signs_mark (clear_of_special c _), isEmpty_tail]
    cases i with
    | zero => cases rest <;> simp
    | succ i => simp [ih]

theorem isSpecial_iff {c : Char} : isSpecial c = true ↔ c ∈ [',', '+', '"', '\\', '<', '>', ';'] := by
  simp only [isSpecial, List.contains_iff_mem]

theorem needed_first (length : Nat) (c : Char) :
    needed length 0 c = ⟨c, isSpecial c || (c == ' ' || c == '#')⟩ := by
  refine congrArg (Sign.mk c) (Bool.eq_iff_iff.mpr (decide_eq_true_iff.trans ?_))
  simp only [Needs, Bool.or_eq_true, isSpecial_iff, beq_iff_eq]
  constructor
  · rintro (special | ⟨-, leading⟩ | ⟨-, blank⟩)
    · exact Or.inl special
    · exact Or.inr leading
    · exact Or.inr (Or.inl blank)
  · rintro (special | leading)
    · exact Or.inl special
    · exact Or.inr (Or.inl ⟨trivial, leading⟩)

theorem needed_later (length place : Nat) (c : Char) :
    needed (length + 1) (place + 1) c = ⟨c, isSpecial c || (c == ' ' && place + 1 == length)⟩ := by
  refine congrArg (Sign.mk c) (Bool.eq_iff_iff.mpr (decide_eq_true_iff.trans ?_))
  simp only [Needs, Bool.or_eq_true, Bool.and_eq_true, isSpecial_iff, beq_iff_eq]
  constructor
  · rintro (special | ⟨first, -⟩ | ⟨last, blank⟩)
    · exact Or.inl special
    · omega
    · exact Or.inr ⟨blank, by omega⟩
  · rintro (special | ⟨blank, last⟩)
    · exact Or.inl special
    · exact Or.inr (Or.inr ⟨by omega, blank⟩)

theorem getElem?_signs_encode (v : List Char) (place : Nat) :
    (signs (encode v))[place]? = v[place]?.map (needed v.length place) := by
  cases v with
  | nil => rfl
  | cons c rest =>
    rw [encode, Bool.or_assoc, signs_mark (clear_of_special c _)]
    cases place with
    | zero => simp only [List.getElem?_cons_zero, Option.map_some, needed_first]
    | succ place =>
      simp only [List.getElem?_cons_succ, List.length_cons, getElem?_signs_tail]
      exact Option.map_congr fun c _ => (needed_later rest.length place c).symm

theorem clear_of_mem_signs_encode {v : List Char} {s : Sign} (mem : s ∈ signs (encode v)) : s.Clear := by
  obtain ⟨i, found⟩ := List.mem_iff_getElem?.mp mem
  rw [getElem?_signs_encode] at found
  obtain ⟨c, -, rfl⟩ := Option.map_eq_some_iff.mp found
  intro backslash
  refine decide_eq_true (Or.inl ?_)
  rw [← isSpecial_iff, show c = '\\' from backslash]
  rfl

/-- An escaped value is one row of signs, and the characters of the row are the value's. Those that separate or
quote are introduced, a blank and a number sign in front, a blank at the end, and no others. -/
theorem escaping_is_exact (s : String) :
    unescape (text s).toList = s.toList ∧ (signs (text s).toList).map Sign.char = s.toList ∧
    (∀ row : List Sign, (∀ sign ∈ row, sign.Clear) ∧ row.flatMap Sign.written = (text s).toList ↔
      row = signs (text s).toList) ∧
    ∀ place : Nat, (signs (text s).toList)[place]? = s.toList[place]?.map (needed s.toList.length place) := by
  rw [text, String.toList_ofList]
  have back := unescape_encode s.toList
  refine ⟨back, (map_char_signs _).trans back, fun row => ?_, getElem?_signs_encode s.toList⟩
  constructor
  · rintro ⟨clear, made⟩
    rw [← made, signs_flatMap_written clear]
  · rintro rfl
    exact ⟨fun sign mem => clear_of_mem_signs_encode mem, flatMap_written_signs _⟩

example : (text " a,\\ ").toList = ['\\', ' ', 'a', '\\', ',', '\\', '\\', '\\', ' '] := by decide

end Roster.Escape

import Roster.Registry.Holds

/-!
# The list of held names

Names are listed in ascending order, each of them once, however often and in whatever order they have
been taken.
-/

namespace Roster.Holds

theorem mem_place_iff {name other : String} {names : List String} :
    other ∈ place name names ↔ other = name ∨ other ∈ names := by
  induction names with
  | nil => simp [place]
  | cons n rest ih =>
    rw [place]
    by_cases before : name < n
    · rw [if_pos before, List.mem_cons]
    · rw [if_neg before]
      by_cases same : name = n
      · rw [if_pos same, same]
        simp
      · rw [if_neg same, List.mem_cons, List.mem_cons, ih]
        exact or_left_comm

theorem ascending_place {name : String} {names : List String} (h : names.Pairwise (· < ·)) :
    (place name names).Pairwise (· < ·) := by
  induction names with
  | nil => exact List.pairwise_singleton _ _
  | cons n rest ih =>
    obtain ⟨first, later⟩ := List.pairwise_cons.mp h
    rw [place]
    by_cases before : name < n
    · rw [if_pos before]
      refine List.pairwise_cons.mpr ⟨fun other mem => ?_, h⟩
      rcases List.mem_cons.mp mem with rfl | mem
      · exact before
      · exact String.lt_trans before (first other mem)
    · rw [if_neg before]
      by_cases same : name = n
      · rw [if_pos same]
        exact h
      · rw [if_neg same]
        refine List.pairwise_cons.mpr ⟨fun other mem => ?_, ih later⟩
        rcases mem_place_iff.mp mem with rfl | mem
        · -- the name is not before n and not n, so it comes behind it
          refine Decidable.byContradiction fun behind => same ?_
          exact String.le_antisymm (String.not_lt.mp behind) (String.not_lt.mp before)
        · exact first other mem

theorem ascending_foldl_place (names : List String) {sorted : List String} (h : sorted.Pairwise (· < ·)) :
    (names.foldl (fun sorted name => place name sorted) sorted).Pairwise (· < ·) := by
  induction names generalizing sorted with
  | nil => exact h
  | cons n rest ih => exact ih (ascending_place h)

theorem mem_foldl_place_iff {names sorted : List String} {name : String} :
    name ∈ names.foldl (fun sorted name => place name sorted) sorted ↔ name ∈ names ∨ name ∈ sorted := by
  induction names generalizing sorted with
  | nil => simp
  | cons n rest ih =>
    calc
      _ ↔ name ∈ rest ∨ name ∈ place n sorted := ih
      _ ↔ name ∈ rest ∨ name = n ∨ name ∈ sorted := or_congr_right mem_place_iff
      _ ↔ name ∈ n :: rest ∨ name ∈ sorted := by rw [List.mem_cons, or_assoc, or_left_comm]

theorem ascending_held (h : Holds) : h.held.Pairwise (· < ·) := ascending_foldl_place h.names .nil

theorem mem_held_iff {h : Holds} {name : String} : name ∈ h.held ↔ name ∈ h.names := by
  rw [held, mem_foldl_place_iff]
  exact or_iff_left List.not_mem_nil

end Roster.Holds

import Roster.Group.Basic

/-!
# Looking records up by name

A name stands for at most one record, so looking it up is the same as finding a record that has
it. Each operation on the records is then a statement about what a name stands for.
-/

namespace Roster.Records

theorem ext_toList {r s : Records} (h : r.toList = s.toList) : r = s := by
  cases r
  cases s
  cases h
  rfl

theorem nodup (r : Records) : r.toList.Nodup := by
  refine r.ascending.imp fun {m n} before => ?_
  rintro rfl
  exact Utf8.not_before_self _ before

/-- The records of a group stand in one order only. -/
theorem eq_of_perm {r : Records} {ns : List Node} (perm : ns.Perm r.toList)
    (ascending : ns.Pairwise Node.Precedes) : ns = r.toList := by
  refine perm.eq_of_pairwise (fun m n _ _ before after => ?_) ascending r.ascending
  exact absurd (Utf8.Before.trans before after) (Utf8.not_before_self m.name)

theorem eq_of_name_eq {r : Records} {m n : Node} (hm : m ∈ r.toList) (hn : n ∈ r.toList)
    (same : m.name = n.name) : m = n := by
  obtain ⟨i, hi, rfl⟩ := List.getElem_of_mem hm
  obtain ⟨j, hj, rfl⟩ := List.getElem_of_mem hn
  have sorted := List.pairwise_iff_getElem.mp r.ascending
  rcases Nat.lt_trichotomy i j with hij | rfl | hij
  · have h := sorted i j hi hj hij
    rw [Node.Precedes, same] at h
    exact absurd h (Utf8.not_before_self _)
  · rfl
  · have h := sorted j i hj hi hij
    rw [Node.Precedes, same] at h
    exact absurd h (Utf8.not_before_self _)

theorem find?_eq_some_iff {r : Records} {name : String} {n : Node} :
    r.find? name = some n ↔ n ∈ r.toList ∧ n.name = name := by
  constructor
  · intro h
    exact ⟨List.mem_of_find?_eq_some h, by simpa using List.find?_some h⟩
  · rintro ⟨hn, rfl⟩
    cases h : r.find? n.name with
    | none =>
      have hne := List.find?_eq_none.mp h n hn
      simp at hne
    | some m =>
      have hm : m.name = n.name := by simpa using List.find?_some h
      rw [eq_of_name_eq (List.mem_of_find?_eq_some h) hn hm]

theorem find?_eq_none_iff {r : Records} {name : String} :
    r.find? name = none ↔ ∀ n ∈ r.toList, n.name ≠ name := by
  simp [find?]

theorem ext_find? {r s : Records} {name : String}
    (h : ∀ n, (n ∈ r.toList ∧ n.name = name) ↔ (n ∈ s.toList ∧ n.name = name)) :
    r.find? name = s.find? name := by
  apply Option.ext
  intro n
  rw [find?_eq_some_iff, find?_eq_some_iff, h n]

theorem mem_insertInto_iff {n a : Node} {ns : List Node} (absent : ∀ m ∈ ns, m.name ≠ n.name) :
    a ∈ insertInto n ns ↔ a = n ∨ a ∈ ns := by
  induction ns with
  | nil => simp [insertInto]
  | cons m ns ih =>
    obtain ⟨hm, hns⟩ := List.forall_mem_cons.mp absent
    rw [insertInto]
    by_cases hp : n.Precedes m
    · simp [hp]
    · rw [if_neg hp, if_neg (Ne.symm hm), List.mem_cons, List.mem_cons, ih hns]
      exact or_left_comm

theorem mem_insert_iff {r : Records} {n a : Node} (absent : r.find? n.name = none) :
    a ∈ (r.insert n).toList ↔ a = n ∨ a ∈ r.toList :=
  mem_insertInto_iff (find?_eq_none_iff.mp absent)

theorem find?_insert_self {r : Records} {n : Node} (absent : r.find? n.name = none) :
    (r.insert n).find? n.name = some n :=
  find?_eq_some_iff.mpr ⟨(mem_insert_iff absent).mpr (Or.inl rfl), rfl⟩

theorem find?_insert_of_ne {r : Records} {n : Node} {name : String} (absent : r.find? n.name = none)
    (other : name ≠ n.name) : (r.insert n).find? name = r.find? name := by
  apply ext_find?
  intro a
  rw [mem_insert_iff absent]
  constructor
  · rintro ⟨rfl | ha, hname⟩
    · exact absurd hname.symm other
    · exact ⟨ha, hname⟩
  · exact fun ⟨ha, hname⟩ => ⟨Or.inr ha, hname⟩

theorem mem_erase_iff {r : Records} {name : String} {n : Node} :
    n ∈ (r.erase name).toList ↔ n ∈ r.toList ∧ n.name ≠ name := by
  simp [erase]

theorem find?_erase_of_ne {r : Records} {name other : String} (h : other ≠ name) :
    (r.erase name).find? other = r.find? other := by
  apply ext_find?
  intro n
  rw [mem_erase_iff]
  constructor
  · exact fun ⟨⟨hn, _⟩, hname⟩ => ⟨hn, hname⟩
  · exact fun ⟨hn, hname⟩ => ⟨⟨hn, fun same => h (hname.symm.trans same)⟩, hname⟩

theorem find?_map {r : Records} {f : Node → Node} (names : ∀ n, (f n).name = n.name)
    (name : String) : (r.map f names).find? name = (r.find? name).map f := by
  simp only [find?, map, List.find?_map, Function.comp_def, names]

theorem find?_markRemoved_self {r : Records} {name : String} {n : Node} (h : r.find? name = some n)
    (change : UInt32) :
    (r.markRemoved name change).find? name = some { n with removed := true, change := change } := by
  rw [markRemoved, find?_map, h, Option.map_some, if_pos (find?_eq_some_iff.mp h).2]

theorem find?_markRemoved_of_ne {r : Records} {name other : String} (h : other ≠ name)
    (change : UInt32) : (r.markRemoved name change).find? other = r.find? other := by
  rw [markRemoved, find?_map]
  cases hfind : r.find? other with
  | none => rfl
  | some n => rw [Option.map_some, if_neg (by rw [(find?_eq_some_iff.mp hfind).2]; exact h)]

theorem find?_move_self {r : Records} {name : String} {n : Node} (h : r.find? name = some n)
    (host : String) (port : UInt16) (change : UInt32) :
    (r.move name host port change).find? name =
      some { n with host := host, port := port, change := change } := by
  rw [move, find?_map, h, Option.map_some, if_pos (find?_eq_some_iff.mp h).2]

theorem find?_move_of_ne {r : Records} {name other : String} (h : other ≠ name) (host : String)
    (port : UInt16) (change : UInt32) :
    (r.move name host port change).find? other = r.find? other := by
  rw [move, find?_map]
  cases hfind : r.find? other with
  | none => rfl
  | some n => rw [Option.map_some, if_neg (by rw [(find?_eq_some_iff.mp hfind).2]; exact h)]

end Roster.Records

import Roster.Proofs.Group.Edit

/-!
# Groups that can come about

A group starts empty or is read from a stream, and is changed by edits and by declarations at
another format. Each of these gives a well-formed group, so whatever else holds of well-formed
groups holds of every group there is.
-/

namespace Roster.Group

theorem wellFormed_empty (name : String) (uuid : Uuid) (format : FormatVersion) :
    (Group.empty name uuid format).WellFormed :=
  ⟨fun _ hn => absurd hn List.not_mem_nil, fun _ hn => absurd hn List.not_mem_nil⟩

theorem enrol_name (g : Group) (n : Node) : (g.enrol n).name = n.name := by
  rw [enrol, Node.restrict_name]

theorem WellFormed.add {g g' : Group} {n : Node} (wf : g.WellFormed) (h : g.add n = .ok g') :
    g'.WellFormed := by
  obtain ⟨hfree, hkind, -, hs, rfl⟩ := add_eq_ok_iff.mp h
  have absent : g.records.find? (g.enrol n).name = none := by
    rw [enrol_name]
    exact hfree
  constructor
  · intro m hm
    rcases (Records.mem_insert_iff absent).mp hm with rfl | hm
    · rw [enrol, Node.restrict_id]
      exact UInt32.le_refl _
    · exact UInt32.le_trans (wf.id_le m hm) (UInt32.le_of_lt (Counter.lt_succ hs))
  · intro m hm
    rcases (Records.mem_insert_iff absent).mp hm with rfl | hm
    · exact Node.restrict_expressible hkind
    · exact wf.expressible m hm

/-- Changing records one by one keeps a group well-formed if ids, types and software versions
stay. -/
theorem WellFormed.map {g : Group} (wf : g.WellFormed) (change : UInt32) {f : Node → Node}
    (names : ∀ n, (f n).name = n.name) (ids : ∀ n, (f n).id = n.id)
    (kinds : ∀ n, (f n).kind = n.kind) (softwares : ∀ n, (f n).software = n.software) :
    WellFormed { g with change := change, records := g.records.map f names } := by
  constructor
  · intro m hm
    obtain ⟨n, hn, rfl⟩ := List.mem_map.mp hm
    rw [ids]
    exact wf.id_le n hn
  · intro m hm
    obtain ⟨n, hn, rfl⟩ := List.mem_map.mp hm
    have he := wf.expressible n hn
    exact ⟨(kinds n).symm ▸ he.kind, fun hs => (softwares n).trans (he.software hs)⟩

theorem WellFormed.remove {g g' : Group} {name : String} (wf : g.WellFormed)
    (h : g.remove name = .ok g') : g'.WellFormed := by
  obtain ⟨-, -, rfl⟩ := remove_eq_ok_iff.mp h
  apply wf.map
  all_goals
    intro n
    split <;> rfl

theorem WellFormed.move {g g' : Group} {name host : String} {port : UInt16} (wf : g.WellFormed)
    (h : g.move name host port = .ok g') : g'.WellFormed := by
  obtain ⟨-, -, rfl⟩ := move_eq_ok_iff.mp h
  apply wf.map
  all_goals
    intro n
    split <;> rfl

theorem WellFormed.delete {g g' : Group} {name : String} (wf : g.WellFormed)
    (h : g.delete name = .ok g') : g'.WellFormed := by
  obtain ⟨-, -, rfl⟩ := delete_eq_ok_iff.mp h
  constructor
  · intro n hn
    exact wf.id_le n (Records.mem_erase_iff.mp hn).1
  · intro n hn
    exact wf.expressible n (Records.mem_erase_iff.mp hn).1

theorem WellFormed.convert {g g' : Group} {format : FormatVersion} (wf : g.WellFormed)
    (h : g.convert format = .ok g') : g'.WellFormed := by
  obtain ⟨carries, rfl⟩ := convert_eq_ok_iff.mp h
  constructor
  · intro m hm
    obtain ⟨n, hn, rfl⟩ := List.mem_map.mp hm
    rw [Node.restrict_id]
    exact wf.id_le n hn
  · intro m hm
    obtain ⟨n, hn, rfl⟩ := List.mem_map.mp hm
    refine Node.restrict_expressible (NodeType.oldestFormat_le_iff.mpr fun hkind => ?_)
    rcases carries with plain | hv
    · exact absurd hkind (plain n hn)
    · exact FormatVersion.carriesSecondary_iff.mpr hv

/-- A group that can be written still can when it is declared at another format. -/
theorem Writable.convert {g g' : Group} {format : FormatVersion} (writable : g.Writable g.format)
    (wf : g.WellFormed) (h : g.convert format = .ok g') : g'.Writable g'.format := by
  have wf' := wf.convert h
  obtain ⟨-, rfl⟩ := convert_eq_ok_iff.mp h
  refine ⟨wf'.carries, ?_, writable.name, fun m hm => ?_⟩
  · have count : (g.records.restrict format).size = g.size := List.length_map _
    rw [size, count]
    exact writable.count
  · obtain ⟨n, hn, rfl⟩ := List.mem_map.mp hm
    exact ((wf.expressible n hn).fits (writable.records n hn) format).restrict

/-- One edit that succeeds, or a declaration at another format. -/
inductive Step (g g' : Group) : Prop
  | add (n : Node) (h : g.add n = .ok g')
  | remove (name : String) (h : g.remove name = .ok g')
  | delete (name : String) (h : g.delete name = .ok g')
  | move (name host : String) (port : UInt16) (h : g.move name host port = .ok g')
  | convert (format : FormatVersion) (h : g.convert format = .ok g')

inductive Reachable : Group → Prop
  | empty (name : String) (uuid : Uuid) (format : FormatVersion) :
      Reachable (Group.empty name uuid format)
  | read {stream : String} {g : Group} (h : ofStream stream = .ok g) : Reachable g
  | step {g g' : Group} (before : Reachable g) (h : Step g g') : Reachable g'

theorem Step.wellFormed {g g' : Group} (h : Step g g') (wf : g.WellFormed) : g'.WellFormed := by
  cases h with
  | add n h => exact wf.add h
  | remove name h => exact wf.remove h
  | delete name h => exact wf.delete h
  | move name host port h => exact wf.move h
  | convert format h => exact wf.convert h

theorem Reachable.wellFormed {g : Group} (h : g.Reachable) : g.WellFormed := by
  induction h with
  | empty name uuid format => exact wellFormed_empty name uuid format
  | read h => exact (ofStream_eq_ok_iff.mp h).1
  | step _ h wf => exact h.wellFormed wf

end Roster.Group

import Roster.Proofs.Registry.Refusal
import Roster.Proofs.Text.Utf8

/-!
# How long a refusal can be

The reasons for which a node is refused name it and its group. Texts that fit into records are
short, so these reasons are short too; and a group whose texts fit fails to be saved as a stream
only for the number of its records.
-/

namespace Roster

theorem Node.Fits.of_le {n : Node} {format newer : FormatVersion} (fits : n.Fits newer)
    (h : format ≤ newer) : n.Fits format :=
  ⟨fits.name, fits.host, fun carries => fits.software (FormatVersion.carriesSoftware_of_le h carries)⟩

namespace Group

/-- Every text of the group fits into its field. -/
structure Short (g : Group) : Prop where
  name : Field.Fits g.name
  records : ∀ n ∈ g.nodes, n.Fits g.format

variable {g g' : Group} {n : Node}

theorem Writable.short (h : g.Writable g.format) : g.Short := ⟨h.name, h.records⟩

theorem Short.add (short : g.Short) (fits : n.Fits g.format) (h : g.add n = .ok g') : g'.Short := by
  obtain ⟨free, -, -, -, rfl⟩ := add_eq_ok_iff.mp h
  have absent : g.records.find? (g.enrol n).name = none := by
    rw [enrol_name]
    exact free
  refine ⟨short.name, fun m hm => ?_⟩
  rcases (Records.mem_insert_iff absent).mp hm with rfl | hm
  · exact Node.Fits.restrict ⟨fits.name, fits.host, fits.software⟩
  · exact short.records m hm

theorem Short.move (short : g.Short) (fits : n.Fits g.format)
    (h : g.move n.name n.host n.port = .ok g') : g'.Short := by
  obtain ⟨-, -, rfl⟩ := move_eq_ok_iff.mp h
  refine ⟨short.name, fun m hm => ?_⟩
  obtain ⟨old, hold, rfl⟩ := List.mem_map.mp hm
  have before := short.records old hold
  split
  · exact ⟨before.name, fits.host, before.software⟩
  · exact before

/-- A group whose texts fit can have too many records, but nothing else is wrong with it. -/
theorem stream_eq_error (wf : g.WellFormed) (short : g.Short) {e : StreamError}
    (h : g.stream = .error e) : e = .corrupt .tooManyNodes := by
  by_cases count : g.size < UInt32.size
  · obtain ⟨stream, written⟩ := exists_streamAt_iff.mpr
      (⟨wf.carries, count, short.name, short.records⟩ : g.Writable g.format)
    cases h.symm.trans written
  · have tooMany : g.tokens g.format = .error (.corrupt .tooManyNodes) :=
      bind_eq_error_iff.mpr (Or.inr ⟨(), checkFormat_eq_ok_iff.mpr wf.carries,
        guard_bind_eq_error_iff.mpr (Or.inl ⟨Nat.le_of_not_lt count, rfl⟩)⟩)
    rw [stream, streamAt, tooMany] at h
    cases h
    rfl

end Group

namespace MemoryStore

theorem save_eq_error {g : Group} {s : MemoryStore} {cause : StoreError}
    (h : (s.save g).1 = .error cause) :
    cause = .unusable path .diskFull ∨ ∃ e, g.stream = .error e ∧ cause = .corrupt e := by
  rw [save] at h
  split at h
  · cases h
    exact Or.inl rfl
  · cases written : g.stream with
    | ok stream =>
      rw [written] at h
      cases h
    | error e =>
      rw [written] at h
      cases h
      exact Or.inr ⟨e, rfl, rfl⟩

end MemoryStore

namespace Registry

/-- The message of every refusal is short, whatever the names in it. -/
theorem Refuses.size_message_le {r : Registry} {n : Node} {e : UpdateError}
    (wf : r.current.WellFormed) (short : r.current.Short) (fits : n.Fits r.current.format)
    (h : r.Refuses n e) : Utf8.size e.message ≤ 200000 := by
  have name : Utf8.size n.name ≤ 65535 := fits.name
  have group : Utf8.size r.current.name ≤ 65535 := short.name
  have node : Utf8.size "node " = 5 := rfl
  cases h with
  | removed known gone =>
    have told : (UpdateError.edit (.notMember n.name r.current.name)).message =
        "node " ++ n.name ++ " is not a member of group " ++ r.current.name := rfl
    have middle : Utf8.size " is not a member of group " = 26 := rfl
    rw [told, Utf8.size_append, Utf8.size_append, Utf8.size_append, node, middle]
    omega
  | @retyped m known current kind =>
    have told : (UpdateError.edit (.typeMismatch n.name m.kind n.kind)).message =
        "node " ++ n.name ++ " is a " ++ m.kind.label ++ " member and cannot rejoin as " ++ n.kind.label := rfl
    have before : Utf8.size " is a " = 6 := rfl
    have middle : Utf8.size " member and cannot rejoin as " = 29 := rfl
    have label : ∀ t : NodeType, Utf8.size t.label ≤ 9 := by
      intro t
      cases t <;> decide
    have old := label m.kind
    have new := label n.kind
    rw [told, Utf8.size_append, Utf8.size_append, Utf8.size_append, Utf8.size_append, Utf8.size_append,
      node, before, middle]
    omega
  | active known current elsewhere held =>
    have told : (UpdateError.edit (.active n.name)).message =
        "node " ++ n.name ++ " is still active; deactivate or remove it first" := rfl
    have middle : Utf8.size " is still active; deactivate or remove it first" = 47 := rfl
    rw [told, Utf8.size_append, Utf8.size_append, node, middle]
    omega
  | secondary unknown kind old =>
    have none : r.current.records.secondaryCount = 0 :=
      Records.secondaryCount_eq_zero_iff.mpr (wf.carries.resolve_right old)
    rw [none]
    generalize r.current.format = format
    cases format <;> decide
  | @unsaved g cause edited failed =>
    have wf' : g.WellFormed := edited.elim wf.add wf.move
    have short' : g.Short := edited.elim (short.add fits) (short.move fits)
    rcases MemoryStore.save_eq_error failed with rfl | ⟨e, unwritable, rfl⟩
    · decide
    · rw [Group.stream_eq_error wf' short' unwritable]
      decide

end Registry

end Roster

import Roster.Proofs.Group.Replay

/-!
# What edits leave of a removed member

The record of a member that has been removed keeps its name from being used again. No edit of the record
succeeds but its deletion, so whatever else is done, declaring the group at an older format can take away its
software version and nothing else changes it.
-/

namespace Roster

/-- The second record is the first, or the first without its software version. -/
def Node.Fades (n n' : Node) : Prop := n' = n ∨ n' = { n with software := none }

namespace Node

variable {n n' n'' : Node}

theorem fades_self (n : Node) : n.Fades n := Or.inl rfl

theorem Fades.trans (h : n.Fades n') (h' : n'.Fades n'') : n.Fades n'' := by
  rcases h' with rfl | rfl
  · exact h
  · rcases h with rfl | rfl
    · exact Or.inr rfl
    · exact Or.inr rfl

theorem fades_restrict (n : Node) (format : FormatVersion) : n.Fades (n.restrict format) := by
  rw [restrict]
  split
  · exact Or.inl rfl
  · exact Or.inr rfl

theorem fades_leave (n : Node) (e : Edit) : n.Fades (e.leave n) := by
  cases e with
  | convert format => exact n.fades_restrict format
  | _ => exact n.fades_self

theorem Fades.removed (h : n.Fades n') : n'.removed = n.removed := by
  rcases h with rfl | rfl <;> rfl

end Node

namespace Group

variable {g g' : Group} {e : Edit} {edits : List Edit} {name : String} {n : Node}

theorem not_hasMember (known : g.find? name = some n) (removed : n.removed = true) : ¬ g.HasMember name := by
  rintro ⟨m, known', current⟩
  cases known.symm.trans known'
  cases removed.symm.trans current

/-- The only edit of a removed member is its deletion. -/
theorem name_ne_of_removed (h : g.edit e = .ok g') (known : g.find? name = some n) (removed : n.removed = true)
    (kept : e ≠ .delete name) : e.name? ≠ some name := by
  have stranger : ¬ g.HasMember name := not_hasMember known removed
  intro about
  cases e with
  | add m =>
    cases about
    obtain ⟨free, -⟩ := add_eq_ok_iff.mp h
    cases known.symm.trans free
  | remove other =>
    cases about
    obtain ⟨member, -⟩ := remove_eq_ok_iff.mp h
    exact stranger member
  | delete other =>
    cases about
    exact kept rfl
  | move other host port =>
    cases about
    obtain ⟨member, -⟩ := move_eq_ok_iff.mp h
    exact stranger member
  | convert format => cases about

/-- As long as a removed member is not deleted no edit is made of it, and its record stays, except for the
software version if the group is declared at another format. -/
theorem removed_replay (h : g.replay edits = .ok g') (kept : .delete name ∉ edits) (known : g.find? name = some n)
    (removed : n.removed = true) : (∀ e ∈ edits, e.name? ≠ some name) ∧
      ∃ n', g'.find? name = some n' ∧ n.Fades n' ∧ ((∀ e ∈ edits, e.isOfRecord = true) → n' = n) := by
  induction edits generalizing g n with
  | nil =>
    cases h
    exact ⟨List.forall_mem_nil _, n, known, n.fades_self, fun _ => rfl⟩
  | cons e rest ih =>
    obtain ⟨middle, first, later⟩ := replay_cons_eq_ok_iff.mp h
    have apart : e ≠ .delete name := (List.ne_of_not_mem_cons kept).symm
    have other := name_ne_of_removed first known removed apart
    have left : middle.find? name = some (e.leave n) := by
      rw [find?_edit first other, known]
      rfl
    have fades := n.fades_leave e
    obtain ⟨others, n', known', fades', same⟩ :=
      ih later (List.not_mem_of_not_mem_cons kept) left (fades.removed.trans removed)
    refine ⟨List.forall_mem_cons.mpr ⟨other, others⟩, n', known', fades.trans fades', fun records => ?_⟩
    obtain ⟨record, records⟩ := List.forall_mem_cons.mp records
    rw [same records, Edit.leave_eq_self record]

/-- Of edits among which there is one of a removed member, but not its deletion, some edit fails. -/
theorem replay_fails (kept : .delete name ∉ edits) (about : ∃ e ∈ edits, e.name? = some name)
    (known : g.find? name = some n) (removed : n.removed = true) : ∃ cause, g.replay edits = .error cause := by
  cases replayed : g.replay edits with
  | error cause => exact ⟨cause, rfl⟩
  | ok g' =>
    obtain ⟨e, mem, named⟩ := about
    obtain ⟨others, -⟩ := removed_replay replayed kept known removed
    exact absurd named (others e mem)

end Group

end Roster

import Roster.Proofs.Admission.Lineage
import Roster.Proofs.Admission.Run

/-!
# What holds of every group

Groups are created, read, edited, written and read again, and published by servers. All of them are
groups that can come about, so their records obey the rules of their own format, and the check of an
edited group against its format never fails.
-/

namespace Roster

namespace Group

/-- The ways in which a group is obtained. -/
inductive Obtained : Group → Prop
  | created (name : String) (uuid : Uuid) (format : FormatVersion) : Obtained (.empty name uuid format)
  | decoded {stream : String} {g : Group} (read : ofStream stream = .ok g) : Obtained g
  | edited {g g' : Group} (before : Obtained g) (step : Step g g') : Obtained g'
  | reloaded {g g' : Group} (before : Obtained g) (written target : FormatVersion)
      (reload : g.reload written target = .ok g') : Obtained g'
  | served {g g' : Group} (before : Obtained g) (service : Service) (store : MemoryStore) (actions : List Action)
      (published : g' ∈ (Server.make service (.make g store)).published actions) : Obtained g'

variable {g : Group}

theorem Obtained.reachable (h : g.Obtained) : g.Reachable := by
  induction h with
  | created name uuid format => exact .empty name uuid format
  | decoded read => exact .read read
  | edited _ step reachable => exact .step reachable step
  | reloaded _ _ _ reload reachable => exact reachable.reload reload
  | served _ service store actions published reachable =>
    exact (Server.run_follows (.make service (.make _ store)) actions).logged reachable _ published

/-- The check behind an edit lets every group through that the edit can give. -/
theorem Reachable.recheck_bind (h : g.Reachable) (edit : GroupEdit) :
    (edit.run g >>= Registry.recheck) = edit.run g := by
  cases edited : edit.run g with
  | error fault => rfl
  | ok g' =>
    have wf := (edit.reachable h edited).wellFormed
    exact Registry.recheck_eq_ok_iff.mpr ⟨wf.carries, rfl⟩

/-- Let a group be obtained in whatever way. It is looked up by the names of its records, its ids are
within its sequence, only the newest format has secondary nodes, removed ones included, and the oldest
one has no software versions. So the group passes the check of its own format, and an update of it fails
in its edit or in its save, but never in the check between them. -/
theorem obtained_group_obeys_its_format (obtained : g.Obtained) :
    (∀ name n, g.find? name = some n ↔ n ∈ g.nodes ∧ n.name = name) ∧
    (∀ n ∈ g.nodes, n.id ≤ g.sequence) ∧
    (g.format ≠ .v3 → ∀ n ∈ g.nodes, n.kind ≠ .secondary) ∧
    (g.format = .v1 → ∀ n ∈ g.nodes, n.software = none) ∧
    g.checkFormat g.format = .ok () ∧
    ∀ edit : GroupEdit, (edit.run g >>= Registry.recheck) = edit.run g ∧
      ∀ (r r' : Registry) fault, r.current = g → r.update edit.run = (.error fault, r') →
        (∃ cause, edit.run g = .error cause ∧ fault = cause.map .edit) ∨
        ∃ g' cause, edit.run g = .ok g' ∧ (r.store.save g').1 = .error cause ∧ fault = .refused (.store cause) := by
  have reachable := obtained.reachable
  have wf := reachable.wellFormed
  refine ⟨fun name n => Records.find?_eq_some_iff, wf.id_le, ?_, ?_, checkFormat_eq_ok_iff.mpr wf.carries, ?_⟩
  · intro old n hn
    exact wf.carries.resolve_right old n hn
  · intro oldest n hn
    refine (wf.expressible n hn).software ?_
    rw [oldest]
    rfl
  · intro edit
    refine ⟨reachable.recheck_bind edit, ?_⟩
    rintro r r' fault rfl failed
    exact Registry.update_eq_error (fun g edited => (edit.reachable reachable edited).wellFormed) failed

/-- The sample with its new node, at the oldest format. -/
def lowered : Group := { grown with format := .v1, records := grown.records.restrict .v1 }

/-- A server adds a node to the sample, which is then written and read again at the oldest format. -/
theorem obtained_lowered : lowered.Obtained :=
  .reloaded (.served (.decoded read_sample) ⟨false, ""⟩ .empty
    [.event "" (.add (.joining "n0" .electable "h" 9 (some "7.5")))] (by decide +kernel : grown ∈ _))
    .v2 .v1 (by decide +kernel)

theorem lowered_obeys_its_format : lowered.Obtained ∧ lowered.format = .v1 ∧
    (∀ n ∈ lowered.nodes, n.software = none) ∧ lowered.checkFormat .v1 = .ok () := by
  obtain ⟨-, -, -, plain, passes, -⟩ := obtained_group_obeys_its_format obtained_lowered
  exact ⟨obtained_lowered, rfl, plain rfl, passes⟩

end Group

end Roster

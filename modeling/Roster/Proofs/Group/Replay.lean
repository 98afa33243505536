import Roster.Proofs.Group.Reachable

/-!
# Groups and the edits that made them

What has been done to a group can be told as a list of edits. Replayed on the group as it was, the
list gives the group as it is: every edit of a record has counted once, every node that was added has
taken one id, and a record that no edit was about is still there.
-/

namespace Roster

/-- An edit of one record, or a declaration of the whole group at another format. -/
inductive Edit where
  | add (n : Node)
  | remove (name : String)
  | delete (name : String)
  | move (name host : String) (port : UInt16)
  | convert (format : FormatVersion)
  deriving DecidableEq, Repr

namespace Edit

/-- The name of the record that the edit is about. -/
def name? : Edit → Option String
  | add n => some n.name
  | remove name => some name
  | delete name => some name
  | move name _ _ => some name
  | convert _ => none

def isOfRecord (e : Edit) : Bool := e.name?.isSome

def isAdd : Edit → Bool
  | add _ => true
  | _ => false

/-- What the edit leaves of a record that it is not about. -/
def leave : Edit → Node → Node
  | convert format, n => n.restrict format
  | _, n => n

/-- The edits of a batch: nodes are added and then names are removed. -/
def ofBatch (nodes : List Node) (names : List String) : List Edit := nodes.map add ++ names.map remove

theorem leave_eq_self {e : Edit} (h : e.isOfRecord = true) (n : Node) : e.leave n = n := by
  cases e with
  | convert format => cases h
  | _ => rfl

end Edit

namespace Group

def edit (g : Group) : Edit → EditResult Group
  | .add n => g.add n
  | .remove name => g.remove name
  | .delete name => g.delete name
  | .move name host port => g.move name host port
  | .convert format => refusing ((g.convert format).mapError .unwritable)

/-- Makes edits in turn. -/
def replay (g : Group) (edits : List Edit) : EditResult Group := edits.foldlM edit g

variable {g g' g'' : Group} {e : Edit} {edits more : List Edit} {name : String} {n : Node}

theorem edit_convert_eq_ok_iff {format : FormatVersion} :
    g.edit (.convert format) = .ok g' ↔ g.convert format = .ok g' :=
  refusing_eq_ok_iff.trans mapError_eq_ok_iff

theorem step_of_edit (h : g.edit e = .ok g') : g.Step g' := by
  cases e with
  | add n => exact .add n h
  | remove name => exact .remove name h
  | delete name => exact .delete name h
  | move name host port => exact .move name host port h
  | convert format => exact .convert format (edit_convert_eq_ok_iff.mp h)

theorem replay_nil (g : Group) : g.replay [] = .ok g := rfl

theorem replay_singleton (g : Group) (e : Edit) : g.replay [e] = g.edit e := by
  rw [replay, List.foldlM_cons]
  cases g.edit e <;> rfl

theorem replay_cons_eq_ok_iff :
    g.replay (e :: edits) = .ok g'' ↔ ∃ g', g.edit e = .ok g' ∧ g'.replay edits = .ok g'' := by
  rw [replay, List.foldlM_cons, bind_eq_ok_iff]
  rfl

theorem replay_append (g : Group) (edits more : List Edit) :
    g.replay (edits ++ more) = g.replay edits >>= (·.replay more) := List.foldlM_append

theorem replay_append_eq_ok_iff :
    g.replay (edits ++ more) = .ok g'' ↔ ∃ g', g.replay edits = .ok g' ∧ g'.replay more = .ok g'' := by
  rw [replay_append, bind_eq_ok_iff]

theorem replay_ofBatch (g : Group) (nodes : List Node) (names : List String) :
    g.replay (Edit.ofBatch nodes names) = g.addAll nodes >>= (·.removeAll names) := by
  have added : g.replay (nodes.map .add) = g.addAll nodes := List.foldlM_map
  have removed : ∀ g : Group, g.replay (names.map .remove) = g.removeAll names := fun _ => List.foldlM_map
  rw [Edit.ofBatch, replay_append, added]
  simp only [removed]

theorem Reachable.replay (reachable : g.Reachable) (h : g.replay edits = .ok g') : g'.Reachable := by
  induction edits generalizing g with
  | nil =>
    cases h
    exact reachable
  | cons e rest ih =>
    obtain ⟨middle, first, later⟩ := replay_cons_eq_ok_iff.mp h
    exact ih (.step reachable (step_of_edit first)) later

theorem edit_counts (h : g.edit e = .ok g') :
    g'.change.toNat = g.change.toNat + e.isOfRecord.toNat ∧
      g'.sequence.toNat = g.sequence.toNat + e.isAdd.toNat := by
  cases e with
  | add n =>
    obtain ⟨-, -, hc, hs, rfl⟩ := add_eq_ok_iff.mp h
    exact ⟨Counter.toNat_succ hc, Counter.toNat_succ hs⟩
  | remove name =>
    obtain ⟨-, hc, rfl⟩ := remove_eq_ok_iff.mp h
    exact ⟨Counter.toNat_succ hc, rfl⟩
  | delete name =>
    obtain ⟨-, hc, rfl⟩ := delete_eq_ok_iff.mp h
    exact ⟨Counter.toNat_succ hc, rfl⟩
  | move name host port =>
    obtain ⟨-, hc, rfl⟩ := move_eq_ok_iff.mp h
    exact ⟨Counter.toNat_succ hc, rfl⟩
  | convert format =>
    obtain ⟨-, rfl⟩ := convert_eq_ok_iff.mp (edit_convert_eq_ok_iff.mp h)
    exact ⟨rfl, rfl⟩

/-- Every edit of a record counts once, and every node that is added takes an id. -/
theorem replay_counts (h : g.replay edits = .ok g') :
    g'.change.toNat = g.change.toNat + edits.countP Edit.isOfRecord ∧
      g'.sequence.toNat = g.sequence.toNat + edits.countP Edit.isAdd := by
  induction edits generalizing g with
  | nil =>
    cases h
    exact ⟨rfl, rfl⟩
  | cons e rest ih =>
    obtain ⟨middle, first, later⟩ := replay_cons_eq_ok_iff.mp h
    obtain ⟨change, sequence⟩ := edit_counts first
    obtain ⟨change', sequence'⟩ := ih later
    rw [change', sequence', change, sequence, List.countP_cons, List.countP_cons]
    cases e.isOfRecord <;> cases e.isAdd <;> simp [Nat.add_assoc, Nat.add_comm]

/-- An edit that is not about a name leaves what has the name. -/
theorem find?_edit (h : g.edit e = .ok g') (other : e.name? ≠ some name) :
    g'.find? name = (g.find? name).map e.leave := by
  have apart : ∀ {about : String}, e.name? = some about → name ≠ about := by
    rintro about is rfl
    exact other is
  cases e with
  | add n =>
    obtain ⟨free, -, -, -, rfl⟩ := add_eq_ok_iff.mp h
    have named : (g.enrol n).name = n.name := enrol_name g n
    have absent : g.records.find? (g.enrol n).name = none := by
      rw [named]
      exact free
    have kept := Records.find?_insert_of_ne absent (named ▸ apart rfl)
    exact kept.trans Option.map_id'.symm
  | remove about =>
    obtain ⟨-, -, rfl⟩ := remove_eq_ok_iff.mp h
    have kept := Records.find?_markRemoved_of_ne (r := g.records) (apart rfl) (g.change + 1)
    exact kept.trans Option.map_id'.symm
  | delete about =>
    obtain ⟨-, -, rfl⟩ := delete_eq_ok_iff.mp h
    have kept := Records.find?_erase_of_ne (r := g.records) (apart rfl)
    exact kept.trans Option.map_id'.symm
  | move about host port =>
    obtain ⟨-, -, rfl⟩ := move_eq_ok_iff.mp h
    have kept := Records.find?_move_of_ne (r := g.records) (apart rfl) host port (g.change + 1)
    exact kept.trans Option.map_id'.symm
  | convert format => exact find?_convert (edit_convert_eq_ok_iff.mp h) name

/-- As long as a record is not deleted it keeps its id. -/
theorem id_edit (h : g.edit e = .ok g') (kept : e ≠ .delete name) (known : g.find? name = some n) :
    ∃ n', g'.find? name = some n' ∧ n'.id = n.id := by
  by_cases about : e.name? = some name
  · cases e with
    | add m =>
      cases about
      obtain ⟨free, -⟩ := add_eq_ok_iff.mp h
      cases known.symm.trans free
    | remove other =>
      cases about
      obtain ⟨-, -, rfl⟩ := remove_eq_ok_iff.mp h
      exact ⟨_, Records.find?_markRemoved_self known _, rfl⟩
    | delete other =>
      cases about
      exact absurd rfl kept
    | move other host port =>
      cases about
      obtain ⟨-, -, rfl⟩ := move_eq_ok_iff.mp h
      exact ⟨_, Records.find?_move_self known host port _, rfl⟩
    | convert format => cases about
  · have same : (e.leave n).id = n.id := by
      cases e with
      | convert format => exact n.restrict_id format
      | _ => rfl
    refine ⟨e.leave n, ?_, same⟩
    rw [find?_edit h about, known]
    rfl

theorem id_replay (h : g.replay edits = .ok g') (kept : .delete name ∉ edits) (known : g.find? name = some n) :
    ∃ n', g'.find? name = some n' ∧ n'.id = n.id := by
  induction edits generalizing g n with
  | nil =>
    cases h
    exact ⟨n, known, rfl⟩
  | cons e rest ih =>
    obtain ⟨middle, first, later⟩ := replay_cons_eq_ok_iff.mp h
    have apart : e ≠ .delete name := (List.ne_of_not_mem_cons kept).symm
    obtain ⟨m, known, same⟩ := id_edit first apart known
    obtain ⟨n', known', same'⟩ := ih later (List.not_mem_of_not_mem_cons kept) known
    exact ⟨n', known', same'.trans same⟩

end Group

end Roster

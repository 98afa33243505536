import Roster.Proofs.Admission.Story
import Roster.Proofs.Group.RoundTrip

/-!
# Operations that fail

An operation on a registry succeeds or leaves behind what it found: the published group, the stored
stream and the holds. It may have used up a save. Nobody who comes later can tell that it was tried.
-/

namespace Roster

namespace Registry

/-- What is asked of a registry. An update may make any number of edits and fail in any of them. -/
inductive Operation where
  | add (n : Node)
  | remove (name : String)
  | delete (name : String)
  | move (name host : String) (port : UInt16)
  | convert (format : FormatVersion)
  | update (edit : Group → EditResult Group)
  | activate (name : String)
  | deactivate (name : String)

/-- What is answered, with the group if one has been published, and the registry that is left. -/
def perform (r : Registry) : Operation → UpdateResult (Option Group) × Registry
  | .add n => (r.add n).map (Except.map some) id
  | .remove name => (r.remove name).map (Except.map some) id
  | .delete name => (r.delete name).map (Except.map some) id
  | .move name host port => (r.move name host port).map (Except.map some) id
  | .convert format => (r.convert format).map (Except.map some) id
  | .update edit => (r.update edit).map (Except.map some) id
  | .activate name =>
    match r.activate name with
    | .ok active => (.ok none, active)
    | .error e => (.error (.refused e), r)
  | .deactivate name => (.ok none, r.deactivate name)

/-- What operations answer in turn. -/
def answers (r : Registry) : List Operation → List (UpdateResult (Option Group))
  | [] => []
  | op :: rest => (r.perform op).1 :: (r.perform op).2.answers rest

/-- The registry behind operations. -/
def performed (r : Registry) (ops : List Operation) : Registry := ops.foldl (fun r op => (r.perform op).2) r

variable {r : Registry} {edit : Group → EditResult Group} {fault : Fault UpdateError}

theorem map_fst_eq_error {α β : Type} {result : UpdateResult α × Registry} {f : α → β}
    (h : (result.map (Except.map f) id).1 = .error fault) : result.1 = .error fault := by
  obtain ⟨answer, after⟩ := result
  cases answer with
  | error e =>
    cases h
    rfl
  | ok a => cases h

/-- An update fails exactly if one of its edits does, or its result cannot be written, or the save fails. -/
theorem update_fails_iff : (∃ fault, (r.update edit).1 = .error fault) ↔
    (∃ cause, edit r.current = .error cause) ∨
      ∃ g, edit r.current = .ok g ∧ (¬ g.Writable g.format ∨ r.store.faults.headD false = true) := by
  constructor
  · rintro ⟨fault, failed⟩
    cases edited : edit r.current with
    | error cause => exact Or.inl ⟨cause, rfl⟩
    | ok g =>
      refine Or.inr ⟨g, rfl, or_iff_not_imp_left.mpr fun writable => ?_⟩
      obtain ⟨stream, written⟩ := Group.exists_streamAt_iff.mpr (not_not.mp writable)
      by_contra works
      have saved := (save_eq_ok_iff written).mpr ⟨Bool.eq_false_iff.mpr works, rfl⟩
      have checked : (edit r.current >>= recheck) = .ok g :=
        bind_eq_ok_iff.mpr ⟨g, edited, recheck_eq_ok_iff.mpr ⟨(not_not.mp writable).carries, rfl⟩⟩
      rw [update, checked] at failed
      simp only [saved] at failed
      cases failed
  · intro reason
    rcases update_cases edit r with ⟨next, stream, edited, written, works, -⟩ | ⟨fault, faults, eq⟩
    · rcases reason with ⟨cause, unedited⟩ | ⟨g, edited', unwritable | fails⟩
      · cases edited.symm.trans unedited
      · cases edited.symm.trans edited'
        exact absurd (Group.exists_streamAt_iff.mp ⟨stream, written⟩) unwritable
      · cases works.symm.trans fails
    · exact ⟨fault, congrArg Prod.fst eq⟩

/-- An update that fails has at most used up a save. -/
theorem update_failed (h : (r.update edit).1 = .error fault) :
    ∃ faults, (r.update edit).2 = r.facing faults := by
  rcases update_cases edit r with ⟨next, stream, -, -, -, eq⟩ | ⟨cause, faults, eq⟩
  · rw [eq] at h
    cases h
  · exact ⟨faults, congrArg Prod.snd eq⟩

theorem updateInactive_failed {name : String} (h : (r.updateInactive name edit).1 = .error fault) :
    ∃ faults, (r.updateInactive name edit).2 = r.facing faults := by
  rw [updateInactive] at h ⊢
  cases inactive : r.requireInactive name with
  | ok =>
    rw [inactive] at h
    exact update_failed h
  | error e => exact ⟨r.store.faults, rfl⟩

/-- Whatever the operation is, its failure is no change but to the saves to come. -/
theorem perform_failed {op : Operation} (h : (r.perform op).1 = .error fault) :
    ∃ faults, (r.perform op).2 = r.facing faults := by
  cases op with
  | add n => exact update_failed (map_fst_eq_error h)
  | remove name => exact update_failed (map_fst_eq_error h)
  | delete name => exact updateInactive_failed (map_fst_eq_error h)
  | move name host port => exact updateInactive_failed (map_fst_eq_error h)
  | convert format => exact update_failed (map_fst_eq_error h)
  | update edit => exact update_failed (map_fst_eq_error h)
  | activate name =>
    rw [perform] at h ⊢
    cases active : r.activate name with
    | ok r' =>
      rw [active] at h
      cases h
    | error e => exact ⟨r.store.faults, rfl⟩
  | deactivate name => cases h

/-- Let an operation fail. The published group, the stored stream and the holds are what they were,
whether an edit of an update has failed, its result cannot be written, or the save has failed. However
the saves to come turn out, later operations answer and leave what they would have without it, and so
does every run of a server of the registry. -/
theorem failed_operation_leaves_no_trace {op : Operation} (failed : (r.perform op).1 = .error fault) :
    let after := (r.perform op).2
    after.current = r.current ∧ after.store.stream = r.store.stream ∧ after.holds = r.holds ∧
    (∀ edit, op = .update edit → (∃ cause, edit r.current = .error cause) ∨
      ∃ g, edit r.current = .ok g ∧ (¬ g.Writable g.format ∨ r.store.faults.headD false = true)) ∧
    ∀ faults,
      (∀ later, (after.facing faults).answers later = (r.facing faults).answers later ∧
        (after.facing faults).performed later = (r.facing faults).performed later) ∧
      ∀ (s : Server) (actions : List Action),
        { s with registry := after.facing faults }.story actions =
          { s with registry := r.facing faults }.story actions ∧
        { s with registry := after.facing faults }.run actions =
          { s with registry := r.facing faults }.run actions := by
  intro after
  obtain ⟨used, left⟩ : ∃ faults, after = r.facing faults := perform_failed failed
  have same : ∀ faults, after.facing faults = r.facing faults := by
    intro faults
    rw [left]
    rfl
  refine ⟨by rw [left]; rfl, by rw [left]; rfl, by rw [left]; rfl, ?_, fun faults => ?_⟩
  · rintro edit rfl
    exact update_fails_iff.mp ⟨fault, map_fst_eq_error failed⟩
  · rw [same faults]
    exact ⟨fun later => ⟨rfl, rfl⟩, fun s actions => ⟨rfl, rfl⟩⟩

/-- The sample is published, and the first save will fail. -/
def unsaved : Registry := .make Group.sample ⟨some Group.sampleStream, [true]⟩

/-- Removing a member twice fails in the second edit, and removing it once fails in the save. The member
is still there, and removing it is then answered as if it had not been tried. -/
theorem failed_removals_leave_no_trace :
    let twice := Operation.update fun g => g.remove "n1" >>= (·.remove "n1")
    (unsaved.perform twice).1 = .error (.refused (.edit (.notMember "n1" "orders"))) ∧
    (unsaved.perform (.remove "n1")).1 = .error (.refused (.store (.unusable MemoryStore.path .diskFull))) ∧
    (unsaved.perform twice).2.current = Group.sample ∧
    (unsaved.perform (.remove "n1")).2.store.stream = some Group.sampleStream ∧
    ((unsaved.perform (.remove "n1")).2.facing []).answers [.remove "n1"] =
      (unsaved.facing []).answers [.remove "n1"] := by
  intro twice
  have edit : (unsaved.perform twice).1 = .error (.refused (.edit (.notMember "n1" "orders"))) := by
    decide +kernel
  have save : (unsaved.perform (.remove "n1")).1 =
      .error (.refused (.store (.unusable MemoryStore.path .diskFull))) := by
    decide +kernel
  obtain ⟨current, -⟩ := failed_operation_leaves_no_trace edit
  obtain ⟨-, stream, -, -, later⟩ := failed_operation_leaves_no_trace save
  exact ⟨edit, save, current, stream, ((later []).1 [.remove "n1"]).1⟩

end Registry

end Roster

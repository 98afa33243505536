import Roster.Proofs.Group.Conversion
import Roster.Proofs.Group.Replay
import Roster.Proofs.Registry.Refusal

/-!
# What is said of an edit that cannot be made

An edit can be objected to, and it can need a counter that is at its end. Where both are so, the
objection is what is reported, unless the edit counts before it looks its name up: a removal or a move
of a stranger then ends like an edit that nothing speaks against.
-/

namespace Roster

/-- The edit takes the next change version before it looks its name up. -/
def Edit.countsFirst : Edit → Bool
  | remove _ => true
  | move _ _ _ => true
  | _ => false

namespace Group

/-- What speaks against an edit, whatever the counters are. -/
inductive Objects (g : Group) : Edit → EditError → Prop where
  | taken {n : Node} (known : g.find? n.name ≠ none) : g.Objects (.add n) (.duplicate n.name g.name)
  | unknownKind {n : Node} (free : g.find? n.name = none) (kind : ¬ n.kind.oldestFormat ≤ g.format) :
      g.Objects (.add n) (.unwritable (.secondaryUnsupported g.format (g.records.secondaryCount + 1)))
  | unremovable {name : String} (stranger : ¬ g.HasMember name) :
      g.Objects (.remove name) (.notMember name g.name)
  | unmovable {name host : String} {port : UInt16} (stranger : ¬ g.HasMember name) :
      g.Objects (.move name host port) (.notMember name g.name)
  | absent {name : String} (absent : g.find? name = none) : g.Objects (.delete name) (.notMember name g.name)
  | uncarried {format : FormatVersion} (secondary : ¬ g.Carries format) :
      g.Objects (.convert format) (.unwritable (.secondaryUnsupported format g.records.secondaryCount))

/-- The edit has to advance a counter that is at its end. -/
def Spent (g : Group) : Edit → Prop
  | .add _ => g.change = Counter.last ∨ g.sequence = Counter.last
  | .convert _ => False
  | _ => g.change = Counter.last

variable {g : Group} {e : Edit} {cause : EditError} {fault : Fault EditError}

theorem objects_add_iff {n : Node} : g.Objects (.add n) cause ↔
    g.find? n.name ≠ none ∧ cause = .duplicate n.name g.name ∨
    g.find? n.name = none ∧ ¬ n.kind.oldestFormat ≤ g.format ∧
      cause = .unwritable (.secondaryUnsupported g.format (g.records.secondaryCount + 1)) := by
  constructor
  · rintro (known | ⟨free, kind⟩)
    · exact Or.inl ⟨known, rfl⟩
    · exact Or.inr ⟨free, kind, rfl⟩
  · rintro (⟨known, rfl⟩ | ⟨free, kind, rfl⟩)
    · exact .taken known
    · exact .unknownKind free kind

theorem objects_remove_iff {name : String} :
    g.Objects (.remove name) cause ↔ ¬ g.HasMember name ∧ cause = .notMember name g.name :=
  ⟨fun (.unremovable stranger) => ⟨stranger, rfl⟩, fun ⟨stranger, is⟩ => is ▸ .unremovable stranger⟩

theorem objects_move_iff {name host : String} {port : UInt16} :
    g.Objects (.move name host port) cause ↔ ¬ g.HasMember name ∧ cause = .notMember name g.name :=
  ⟨fun (.unmovable stranger) => ⟨stranger, rfl⟩, fun ⟨stranger, is⟩ => is ▸ .unmovable stranger⟩

theorem objects_delete_iff {name : String} :
    g.Objects (.delete name) cause ↔ g.find? name = none ∧ cause = .notMember name g.name :=
  ⟨fun (.absent absent) => ⟨absent, rfl⟩, fun ⟨absent, is⟩ => is ▸ .absent absent⟩

theorem objects_convert_iff {format : FormatVersion} : g.Objects (.convert format) cause ↔
    ¬ g.Carries format ∧ cause = .unwritable (.secondaryUnsupported format g.records.secondaryCount) :=
  ⟨fun (.uncarried secondary) => ⟨secondary, rfl⟩, fun ⟨secondary, is⟩ => is ▸ .uncarried secondary⟩

/-- How an edit fails: whichever comes first of the counter and the objection is told. -/
theorem edit_eq_error_iff : g.edit e = .error fault ↔
    fault = .exhausted ∧ g.Spent e ∧ ((∀ cause, ¬ g.Objects e cause) ∨ e.countsFirst = true) ∨
      ∃ cause, fault = .refused cause ∧ g.Objects e cause ∧ ¬ (e.countsFirst = true ∧ g.Spent e) := by
  cases e with
  | add n =>
    rw [edit, add_eq_error_iff]
    by_cases free : g.find? n.name = none
    · by_cases kind : n.kind.oldestFormat ≤ g.format
      · simp [objects_add_iff, Spent, Edit.countsFirst, free, kind, and_comm]
      · simp [objects_add_iff, Spent, Edit.countsFirst, free, kind]
    · simp [objects_add_iff, Spent, Edit.countsFirst, free]
  | remove name =>
    rw [edit, remove_eq_error_iff]
    by_cases spent : g.change = Counter.last
    · simp [objects_remove_iff, Spent, Edit.countsFirst, spent]
    · simp [objects_remove_iff, Spent, Edit.countsFirst, spent, and_comm]
  | move name host port =>
    rw [edit, move_eq_error_iff]
    by_cases spent : g.change = Counter.last
    · simp [objects_move_iff, Spent, Edit.countsFirst, spent]
    · simp [objects_move_iff, Spent, Edit.countsFirst, spent, and_comm]
  | delete name =>
    rw [edit, delete_eq_error_iff]
    by_cases absent : g.find? name = none
    · simp [objects_delete_iff, Spent, Edit.countsFirst, absent]
    · simp [objects_delete_iff, Spent, Edit.countsFirst, absent, and_comm]
  | convert format =>
    rw [edit, refusing_eq_error_iff]
    simp only [mapError_eq_error_iff, convert_eq_error_iff]
    by_cases carries : g.Carries format
    · simp [objects_convert_iff, Spent, carries]
    · simp [objects_convert_iff, Spent, Edit.countsFirst, carries]

theorem edit_eq_refused_iff : g.edit e = .error (.refused cause) ↔
    g.Objects e cause ∧ ¬ (e.countsFirst = true ∧ g.Spent e) := by
  rw [edit_eq_error_iff]
  constructor
  · rintro (⟨⟨⟩, -⟩ | ⟨_, ⟨⟩, reported⟩)
    exact reported
  · exact fun reported => Or.inr ⟨cause, rfl, reported⟩

theorem edit_eq_exhausted_iff : g.edit e = .error .exhausted ↔
    g.Spent e ∧ ((∀ cause, ¬ g.Objects e cause) ∨ e.countsFirst = true) := by
  rw [edit_eq_error_iff]
  constructor
  · rintro (⟨-, hidden⟩ | ⟨_, ⟨⟩, -⟩)
    exact hidden
  · exact fun hidden => Or.inl ⟨rfl, hidden⟩

theorem edit_succeeds_iff : (∃ g', g.edit e = .ok g') ↔ ¬ g.Spent e ∧ ∀ cause, ¬ g.Objects e cause := by
  constructor
  · rintro ⟨g', made⟩
    have unfailing : ∀ fault, g.edit e ≠ .error fault := fun fault failed => by
      cases made.symm.trans failed
    have free : ∀ cause, ¬ g.Objects e cause := by
      intro cause objects
      by_cases hidden : e.countsFirst = true ∧ g.Spent e
      · exact unfailing _ (edit_eq_exhausted_iff.mpr ⟨hidden.2, Or.inr hidden.1⟩)
      · exact unfailing _ (edit_eq_refused_iff.mpr ⟨objects, hidden⟩)
    exact ⟨fun spent => unfailing _ (edit_eq_exhausted_iff.mpr ⟨spent, Or.inl free⟩), free⟩
  · rintro ⟨fresh, free⟩
    cases made : g.edit e with
    | ok g' => exact ⟨g', rfl⟩
    | error fault =>
      rcases edit_eq_error_iff.mp made with ⟨-, spent, -⟩ | ⟨cause, -, objects, -⟩
      · exact absurd spent fresh
      · exact absurd objects (free cause)

/-- An edit that is objected to does not succeed, so nothing is published and nothing saved. -/
theorem Objects.update_same {r : Registry} (objects : r.current.Objects e cause) :
    (r.update (·.edit e)).2 = r := by
  rw [Registry.update]
  cases made : r.current.edit e with
  | error fault => rfl
  | ok g' => exact absurd objects ((edit_succeeds_iff.mp ⟨g', made⟩).2 cause)

/-- With every value of the counters, an objection is what is reported, and it leaves everything as it
was, but where an edit that counts first has no change version left. A counter at its end is
otherwise felt only by an edit that has to advance it and that nothing speaks against. -/
theorem objection_is_reported_iff (g : Group) (e : Edit) :
    (∀ cause, g.Objects e cause →
      (g.edit e = .error (.refused cause) ↔ ¬ (e.countsFirst = true ∧ g.change = Counter.last)) ∧
      ∀ r : Registry, r.current = g → (r.update (·.edit e)).2 = r) ∧
    (g.edit e = .error .exhausted ↔
      g.Spent e ∧ ((∀ cause, ¬ g.Objects e cause) ∨ e.countsFirst = true)) ∧
    ((∃ g', g.edit e = .ok g') ↔ ¬ g.Spent e ∧ ∀ cause, ¬ g.Objects e cause) := by
  refine ⟨fun cause objects => ⟨?_, ?_⟩, edit_eq_exhausted_iff, edit_succeeds_iff⟩
  · have counts : e.countsFirst = true ∧ g.Spent e ↔ e.countsFirst = true ∧ g.change = Counter.last :=
      and_congr_right fun first => by
        cases e with
        | remove name => rfl
        | move name host port => rfl
        | _ => cases first
    rw [edit_eq_refused_iff, counts]
    exact and_iff_right objects
  · rintro r rfl
    exact objects.update_same

/-- A group without records whose change version is at its end. -/
def worn : Group := ⟨"orders", Uuid.zero, .v1, Counter.last, 0, Records.empty⟩

def wornStream : String := "000100066f726465727300000000000000000000000000000000ffffffff0000000000000000"

theorem read_worn : ofStream wornStream = .ok worn := by decide +kernel

theorem stranger_is_reported_to_worn : worn.Objects (.delete "x") (.notMember "x" "orders") ∧
    worn.edit (.delete "x") = .error (.refused (.notMember "x" "orders")) := by
  have objects : worn.Objects (.delete "x") (.notMember "x" "orders") := .absent rfl
  obtain ⟨reported, -⟩ := (objection_is_reported_iff worn (.delete "x")).1 _ objects
  exact ⟨objects, reported.mpr (by simp [Edit.countsFirst])⟩

/-- The same stranger can be neither removed nor moved, and this is not what is said. -/
theorem stranger_is_hidden_by_worn : ofStream wornStream = .ok worn ∧
    worn.Objects (.remove "x") (.notMember "x" "orders") ∧
    worn.edit (.remove "x") = .error .exhausted ∧
    worn.Objects (.move "x" "h" 1) (.notMember "x" "orders") ∧
    worn.edit (.move "x" "h" 1) = .error .exhausted := by
  have stranger : ¬ worn.HasMember "x" := by
    rintro ⟨n, found, -⟩
    cases found
  exact ⟨read_worn, .unremovable stranger, by decide +kernel, .unmovable stranger, by decide +kernel⟩

end Group

end Roster

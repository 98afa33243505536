import Roster.Proofs.Registry.Register

/-!
# Why a node is not admitted

A registry refuses a node for one of five reasons: its name is that of a removed node, or of a node
of another type, or of an active node at another address, or the group's format cannot carry the
node, or the changed group cannot be saved. A group that can come about gives no other reason.
-/

namespace Roster

namespace Group

theorem requireMember_eq_error_iff {g : Group} {name : String} {fault : Fault EditError} :
    g.requireMember name = .error fault ↔
      ¬ g.HasMember name ∧ fault = .refused (.notMember name g.name) := by
  rw [requireMember, HasMember]
  cases g.find? name with
  | none => simp [eq_comm (b := fault)]
  | some n => cases h : n.removed <;> simp [h, eq_comm (b := fault)]

/-- An edit that counts before it looks a member up. -/
theorem counted_eq_error_iff {g : Group} {name : String} {made : UInt32 → Group} {fault : Fault EditError} :
    (do
      let change ← Counter.next g.change
      g.requireMember name
      return made change) = .error fault ↔
      g.change = Counter.last ∧ fault = .exhausted ∨
      g.change ≠ Counter.last ∧ ¬ g.HasMember name ∧ fault = .refused (.notMember name g.name) := by
  rw [bind_eq_error_iff, Counter.next_eq_error_iff]
  refine or_congr_right ?_
  constructor
  · rintro ⟨change, hchange, h⟩
    obtain ⟨hc, rfl⟩ := Counter.next_eq_ok_iff.mp hchange
    rcases bind_eq_error_iff.mp h with h | ⟨_, -, h⟩
    · exact ⟨hc, requireMember_eq_error_iff.mp h⟩
    · cases h
  · rintro ⟨hc, h⟩
    exact ⟨_, Counter.next_eq_ok_iff.mpr ⟨hc, rfl⟩,
      bind_eq_error_iff.mpr (Or.inl (requireMember_eq_error_iff.mpr h))⟩

theorem remove_eq_error_iff {g : Group} {name : String} {fault : Fault EditError} :
    g.remove name = .error fault ↔
      g.change = Counter.last ∧ fault = .exhausted ∨
      g.change ≠ Counter.last ∧ ¬ g.HasMember name ∧ fault = .refused (.notMember name g.name) :=
  counted_eq_error_iff

theorem move_eq_error_iff {g : Group} {name host : String} {port : UInt16} {fault : Fault EditError} :
    g.move name host port = .error fault ↔
      g.change = Counter.last ∧ fault = .exhausted ∨
      g.change ≠ Counter.last ∧ ¬ g.HasMember name ∧ fault = .refused (.notMember name g.name) :=
  counted_eq_error_iff

theorem member_eq_error_iff {g : Group} {name : String} {cause : EditError} :
    g.member name = .error cause ↔ g.find? name = none ∧ cause = .notMember name g.name := by
  rw [member]
  cases g.find? name <;> simp [eq_comm]

theorem delete_eq_error_iff {g : Group} {name : String} {fault : Fault EditError} :
    g.delete name = .error fault ↔
      g.find? name = none ∧ fault = .refused (.notMember name g.name) ∨
      g.find? name ≠ none ∧ g.change = Counter.last ∧ fault = .exhausted := by
  rw [delete, bind_eq_error_iff, refusing_eq_error_iff]
  constructor
  · rintro (⟨cause, h, rfl⟩ | ⟨n, known, h⟩)
    · obtain ⟨absent, rfl⟩ := member_eq_error_iff.mp h
      exact Or.inl ⟨absent, rfl⟩
    · have found := member_eq_ok_iff.mp (refusing_eq_ok_iff.mp known)
      rcases bind_eq_error_iff.mp h with h | ⟨change, -, h⟩
      · exact Or.inr ⟨by simp [found], Counter.next_eq_error_iff.mp h⟩
      · cases h
  · rintro (⟨absent, rfl⟩ | ⟨known, spent⟩)
    · exact Or.inl ⟨_, member_eq_error_iff.mpr ⟨absent, rfl⟩, rfl⟩
    · obtain ⟨n, found⟩ := Option.ne_none_iff_exists'.mp known
      exact Or.inr ⟨n, refusing_eq_ok_iff.mpr (member_eq_ok_iff.mpr found),
        bind_eq_error_iff.mpr (Or.inl (Counter.next_eq_error_iff.mpr spent))⟩

theorem add_eq_error_iff {g : Group} {n : Node} {fault : Fault EditError} :
    g.add n = .error fault ↔
      g.find? n.name ≠ none ∧ fault = .refused (.duplicate n.name g.name) ∨
      g.find? n.name = none ∧ ¬ n.kind.oldestFormat ≤ g.format ∧
        fault = .refused (.unwritable (.secondaryUnsupported g.format (g.records.secondaryCount + 1))) ∨
      g.find? n.name = none ∧ n.kind.oldestFormat ≤ g.format ∧
        (g.change = Counter.last ∨ g.sequence = Counter.last) ∧ fault = .exhausted := by
  have known : (g.find? n.name).isSome = true ↔ g.find? n.name ≠ none := Option.isSome_iff_ne_none
  rw [add]
  constructor
  · intro h
    rcases guard_bind_eq_error_iff.mp h with ⟨taken, rfl⟩ | ⟨free, h⟩
    · exact Or.inl ⟨known.mp taken, rfl⟩
    rw [known, not_not] at free
    rcases guard_bind_eq_error_iff.mp h with ⟨kind, rfl⟩ | ⟨kind, h⟩
    · exact Or.inr (Or.inl ⟨free, kind, rfl⟩)
    refine Or.inr (Or.inr ⟨free, not_not.mp kind, ?_⟩)
    rcases bind_eq_error_iff.mp h with h | ⟨change, -, h⟩
    · exact (Counter.next_eq_error_iff.mp h).imp_left Or.inl
    rcases bind_eq_error_iff.mp h with h | ⟨id, -, h⟩
    · exact (Counter.next_eq_error_iff.mp h).imp_left Or.inr
    · cases h
  · rintro (⟨taken, rfl⟩ | ⟨free, kind, rfl⟩ | ⟨free, kind, counter, rfl⟩)
    · exact guard_bind_eq_error_iff.mpr (Or.inl ⟨known.mpr taken, rfl⟩)
    · exact guard_bind_eq_error_iff.mpr (Or.inr ⟨by simp [free],
        guard_bind_eq_error_iff.mpr (Or.inl ⟨kind, rfl⟩)⟩)
    · refine guard_bind_eq_error_iff.mpr (Or.inr ⟨by simp [free],
        guard_bind_eq_error_iff.mpr (Or.inr ⟨not_not_intro kind, bind_eq_error_iff.mpr ?_⟩)⟩)
      by_cases change : g.change = Counter.last
      · exact Or.inl (Counter.next_eq_error_iff.mpr ⟨change, rfl⟩)
      · have sequence := counter.resolve_left change
        exact Or.inr ⟨_, Counter.next_eq_ok_iff.mpr ⟨change, rfl⟩,
          bind_eq_error_iff.mpr (Or.inl (Counter.next_eq_error_iff.mpr ⟨sequence, rfl⟩))⟩

end Group

namespace Registry

/-- What is published has been edited to a group that its own format carries, so it can fail only
in the edit or the save. -/
theorem update_eq_error {edit : Group → EditResult Group} {r r' : Registry} {fault : Fault UpdateError}
    (sound : ∀ g, edit r.current = .ok g → g.WellFormed) (h : r.update edit = (.error fault, r')) :
    (∃ cause, edit r.current = .error cause ∧ fault = cause.map .edit) ∨
      ∃ g cause, edit r.current = .ok g ∧ (r.store.save g).1 = .error cause ∧
        fault = .refused (.store cause) := by
  rw [update] at h
  cases checked : edit r.current >>= recheck with
  | error cause =>
    rw [checked] at h
    cases h
    rcases bind_eq_error_iff.mp checked with failed | ⟨g, edited, failed⟩
    · exact Or.inl ⟨cause, failed, rfl⟩
    · have carried : recheck g = .ok g := recheck_eq_ok_iff.mpr ⟨(sound g edited).carries, rfl⟩
      cases carried.symm.trans failed
  | ok g =>
    obtain ⟨g', edited, carried⟩ := bind_eq_ok_iff.mp checked
    obtain ⟨-, rfl⟩ := recheck_eq_ok_iff.mp carried
    rw [checked] at h
    simp only at h
    rcases saved : r.store.save g with ⟨_ | _, store⟩
    · rw [saved] at h
      cases h
      exact Or.inr ⟨g, _, edited, congrArg Prod.fst saved, rfl⟩
    · rw [saved] at h
      cases h

/-- What is left after a failed update is what was there, one save perhaps used up. -/
theorem update_error_same {edit : Group → EditResult Group} {r r' : Registry} {fault : Fault UpdateError}
    (h : r.update edit = (.error fault, r')) :
    r'.current = r.current ∧ r'.holds = r.holds ∧ r'.store.stream = r.store.stream := by
  rcases update_cases edit r with ⟨next, stream, -, -, -, eq⟩ | ⟨fault, faults, eq⟩
  · cases eq.symm.trans h
  · cases eq.symm.trans h
    exact ⟨rfl, rfl, rfl⟩

/-- A node that cannot be registered leaves everything as it was; it is refused for a reason, or a
counter is at its end. -/
theorem register_eq_error {n : Node} {r r' : Registry} {fault : Fault UpdateError}
    (wf : r.current.WellFormed) (h : r.register n = (.error fault, r')) :
    ((∃ e, fault = .refused e ∧ r.Refuses n e) ∨
      fault = .exhausted ∧ (r.current.change = Counter.last ∨ r.current.sequence = Counter.last)) ∧
    r'.current = r.current ∧ r'.holds = r.holds ∧ r'.store.stream = r.store.stream := by
  cases registering n r with
  | new absent eq =>
    refine ⟨?_, update_error_same (eq.symm.trans h)⟩
    rcases update_eq_error (fun g h => wf.add h) (eq.symm.trans h) with
      ⟨cause, failed, rfl⟩ | ⟨g, cause, added, failed, rfl⟩
    · rcases Group.add_eq_error_iff.mp failed with ⟨taken, -⟩ | ⟨-, kind, rfl⟩ | ⟨-, -, counter, rfl⟩
      · exact absurd absent taken
      · obtain ⟨secondary, old⟩ := NodeType.not_oldestFormat_le_iff.mp kind
        exact Or.inl ⟨_, rfl, .secondary absent secondary old⟩
      · exact Or.inr ⟨rfl, counter⟩
    · exact Or.inl ⟨_, rfl, .unsaved (Or.inl added) failed⟩
  | refused known refuses eq =>
    cases eq.symm.trans h
    exact ⟨Or.inl ⟨_, rfl, refuses⟩, rfl, rfl, rfl⟩
  | back known _ _ _ eq => cases eq.symm.trans h
  | moved known current _ _ _ eq =>
    refine ⟨?_, update_error_same (eq.symm.trans h)⟩
    rcases update_eq_error (fun g h => wf.move h) (eq.symm.trans h) with
      ⟨cause, failed, rfl⟩ | ⟨g, cause, moved, failed, rfl⟩
    · rcases Group.move_eq_error_iff.mp failed with ⟨change, rfl⟩ | ⟨-, stranger, -⟩
      · exact Or.inr ⟨rfl, Or.inl change⟩
      · exact absurd ⟨_, known, current⟩ stranger
    · exact Or.inl ⟨_, rfl, .unsaved (Or.inr moved) failed⟩

end Registry

end Roster

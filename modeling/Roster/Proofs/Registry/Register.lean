import Roster.Proofs.Registry.Update

/-!
# Admitting a node

A node is admitted under a new name, at a new address, or as the member that it is already. The
cases differ in what they publish, but not in what they promise about the group that comes of it.
-/

namespace Roster

/-- What admitting a node may make of a group. -/
structure Group.Admits (g : Group) (n : Node) (g' : Group) : Prop where
  format : g'.format = g.format
  member : ∃ m, g'.find? n.name = some m ∧ m.removed = false ∧ m.kind = n.kind ∧
    m.host = n.host ∧ m.port = n.port
  others : ∀ name, name ≠ n.name → g'.find? name = g.find? name
  change : g'.change = g.change ∨ g'.change.toNat = g.change.toNat + 1
  sequence : g'.sequence = g.sequence ∨
    g.find? n.name = none ∧ g'.sequence.toNat = g.sequence.toNat + 1

namespace Group

theorem Admits.hasMember {g g' : Group} {n : Node} (h : g.Admits n g') : g'.HasMember n.name := by
  obtain ⟨m, hm, current, -⟩ := h.member
  exact ⟨m, hm, current⟩

theorem admits_add {g g' : Group} {n : Node} (h : g.add n = .ok g') : g.Admits n g' := by
  obtain ⟨hfree, -, hc, hs, rfl⟩ := add_eq_ok_iff.mp h
  have absent : g.records.find? (g.enrol n).name = none := by
    rw [enrol_name]
    exact hfree
  refine ⟨rfl, ⟨g.enrol n, ?_, ?_⟩, ?_, Or.inr (Counter.toNat_succ hc),
    Or.inr ⟨hfree, Counter.toNat_succ hs⟩⟩
  · rw [← enrol_name g n]
    exact Records.find?_insert_self absent
  · simp [enrol]
  · intro name other
    rw [← enrol_name g n] at other
    exact Records.find?_insert_of_ne absent other

theorem admits_move {g g' : Group} {n m : Node} (hm : g.find? n.name = some m)
    (kind : m.kind = n.kind) (h : g.move n.name n.host n.port = .ok g') : g.Admits n g' := by
  obtain ⟨⟨m', hm', current⟩, hc, rfl⟩ := move_eq_ok_iff.mp h
  rw [hm] at hm'
  cases hm'
  refine ⟨rfl, ⟨_, Records.find?_move_self hm n.host n.port _, current, kind, rfl, rfl⟩, ?_,
    Or.inr (Counter.toNat_succ hc), Or.inl rfl⟩
  intro name other
  exact Records.find?_move_of_ne other n.host n.port _

theorem admits_self {g : Group} {n m : Node} (hm : g.find? n.name = some m)
    (current : m.removed = false) (kind : m.kind = n.kind) (host : m.host = n.host)
    (port : m.port = n.port) : g.Admits n g :=
  ⟨rfl, ⟨m, hm, current, kind, host, port⟩, fun _ _ => rfl, Or.inl rfl, Or.inl rfl⟩

end Group

namespace Registry

/-- Why a registry refuses a node. -/
inductive Refuses (r : Registry) (n : Node) : UpdateError → Prop
  | removed {m : Node} (known : r.current.find? n.name = some m) (gone : m.removed = true) :
      Refuses r n (.edit (.notMember n.name r.current.name))
  | retyped {m : Node} (known : r.current.find? n.name = some m) (current : m.removed = false)
      (kind : m.kind ≠ n.kind) : Refuses r n (.edit (.typeMismatch n.name m.kind n.kind))
  | active {m : Node} (known : r.current.find? n.name = some m) (current : m.removed = false)
      (elsewhere : ¬ (m.host = n.host ∧ m.port = n.port)) (held : r.isActive n.name = true) :
      Refuses r n (.edit (.active n.name))
  | secondary (unknown : r.current.find? n.name = none) (kind : n.kind = .secondary)
      (old : r.current.format ≠ .v3) :
      Refuses r n (.edit (.unwritable
        (.secondaryUnsupported r.current.format (r.current.records.secondaryCount + 1))))
  | unsaved {g : Group} {cause : StoreError}
      (edited : r.current.add n = .ok g ∨ r.current.move n.name n.host n.port = .ok g)
      (failed : (r.store.save g).1 = .error cause) : Refuses r n (.store cause)

/-- A member that comes at another address asks to be moved. -/
theorem register_elsewhere {r : Registry} {n m : Node} (known : r.current.find? n.name = some m)
    (current : m.removed = false) (kind : m.kind = n.kind) (elsewhere : ¬ (m.host = n.host ∧ m.port = n.port)) :
    r.register n = r.move n.name n.host n.port := by
  rw [register, known]
  simp [current, kind, not_and_or.mp elsewhere]

theorem move_of_active {r : Registry} {name : String} (active : r.isActive name = true) (host : String)
    (port : UInt16) : r.move name host port = (.error (.refused (.edit (.active name))), r) := by
  rw [Registry.move, updateInactive, requireInactive, active]
  rfl

theorem move_of_inactive {r : Registry} {name : String} (inactive : r.isActive name = false) (host : String)
    (port : UInt16) : r.move name host port = r.update (GroupEdit.move name host port).run := by
  rw [Registry.move, updateInactive, requireInactive, inactive]
  rfl

/-- How registering a node can go. -/
inductive Registering (n : Node) (r : Registry) : Prop
  | new (absent : r.current.find? n.name = none)
      (eq : r.register n = r.update (GroupEdit.add n).run)
  | refused {m : Node} {e : UpdateError} (known : r.current.find? n.name = some m)
      (refuses : r.Refuses n e) (eq : r.register n = (.error (.refused e), r))
  | back {m : Node} (known : r.current.find? n.name = some m) (current : m.removed = false)
      (kind : m.kind = n.kind) (address : m.host = n.host ∧ m.port = n.port)
      (eq : r.register n = (.ok r.current, r))
  | moved {m : Node} (known : r.current.find? n.name = some m) (current : m.removed = false)
      (kind : m.kind = n.kind) (elsewhere : ¬ (m.host = n.host ∧ m.port = n.port))
      (inactive : r.isActive n.name = false)
      (eq : r.register n = r.update (GroupEdit.move n.name n.host n.port).run)

theorem registering (n : Node) (r : Registry) : Registering n r := by
  have def_eq := register.eq_1 n r
  cases known : r.current.find? n.name with
  | none =>
    rw [known] at def_eq
    exact .new known def_eq
  | some m =>
    rw [known] at def_eq
    simp only at def_eq
    by_cases removed : m.removed = true
    · rw [if_pos removed] at def_eq
      exact .refused known (.removed known removed) def_eq
    rw [if_neg removed] at def_eq
    have current : m.removed = false := Bool.eq_false_iff.mpr removed
    by_cases kind : m.kind = n.kind
    · rw [if_neg (not_not_intro kind)] at def_eq
      by_cases address : m.host = n.host ∧ m.port = n.port
      · rw [if_neg (by simp [address])] at def_eq
        exact .back known current kind address def_eq
      · have moves := register_elsewhere known current kind address
        cases active : r.isActive n.name with
        | true =>
          exact .refused known (.active known current address active) (moves.trans (move_of_active active _ _))
        | false => exact .moved known current kind address active (moves.trans (move_of_inactive active _ _))
    · rw [if_pos kind] at def_eq
      exact .refused known (.retyped known current kind) def_eq

/-- A node that comes as a newer format carries it is registered as it is. -/
theorem register_restrict {r : Registry} {newer : FormatVersion} (h : r.current.format ≤ newer)
    (n : Node) : r.register (n.restrict newer) = r.register n := by
  simp only [register, add, update, Node.restrict_name, Node.restrict_kind, Node.restrict_host,
    Node.restrict_port, Group.add_restrict h]

/-- The groups that registering a node publishes. A member that is accepted back as it is needs
no update. -/
def registration (n : Node) (r : Registry) : List Group :=
  match r.current.find? n.name with
  | some m => if m.host = n.host ∧ m.port = n.port then [] else published (r.register n).1
  | none => published (r.register n).1

/-- Registering comes down to one update, whose result it publishes, or changes nothing. -/
theorem registration_cases (n : Node) (r : Registry) :
    (∃ edit : GroupEdit, r.register n = r.update edit.run ∧
      r.registration n = published (r.update edit.run).1) ∨
    (r.register n).2 = r ∧ r.registration n = [] := by
  rw [registration]
  cases registering n r with
  | new absent eq =>
    rw [absent, eq]
    exact Or.inl ⟨_, rfl, rfl⟩
  | refused known _ eq =>
    rw [known, eq]
    exact Or.inr ⟨rfl, ite_self _⟩
  | back known _ _ address eq =>
    rw [known, eq]
    exact Or.inr ⟨rfl, if_pos address⟩
  | moved known _ _ elsewhere _ eq =>
    rw [known, eq]
    exact Or.inl ⟨_, rfl, if_neg elsewhere⟩

theorem register_follows (n : Node) (r : Registry) :
    r.Follows (r.registration n) (r.register n).2 := by
  rcases registration_cases n r with ⟨edit, eq, publishes⟩ | ⟨same, quiet⟩
  · rw [eq, publishes]
    exact update_follows edit r
  · rw [same, quiet]
    exact .refl r

/-- A node that is registered is admitted to the group that is current afterwards, and nobody's
hold is touched. -/
theorem register_admits {n : Node} {r r' : Registry} {g : Group} (h : r.register n = (.ok g, r')) :
    r.current.Admits n g ∧ r'.current = g ∧ r'.holds = r.holds := by
  have updated : ∀ edit : GroupEdit, r.register n = r.update edit.run →
      edit.run r.current = .ok g ∧ r'.current = g ∧ r'.holds = r.holds := by
    intro edit eq
    rw [h] at eq
    rcases update_cases edit.run r with ⟨next, stream, hedit, -, -, hupdate⟩ | ⟨_, _, hupdate⟩
    · rw [hupdate] at eq
      cases eq
      exact ⟨hedit, rfl, rfl⟩
    · rw [hupdate] at eq
      cases eq
  cases registering n r with
  | new absent eq =>
    obtain ⟨hedit, same⟩ := updated (.add n) eq
    exact ⟨Group.admits_add hedit, same⟩
  | refused _ _ eq =>
    rw [h] at eq
    cases eq
  | back known current kind address eq =>
    rw [h] at eq
    cases eq
    exact ⟨Group.admits_self known current kind address.1 address.2, rfl, rfl⟩
  | moved known _ kind _ _ eq =>
    obtain ⟨hedit, same⟩ := updated (.move n.name n.host n.port) eq
    exact ⟨Group.admits_move known kind hedit, same⟩

/-- The group a node is registered in has been stored, or it is the one that was there. -/
theorem register_stored {n : Node} {r r' : Registry} {g : Group} (h : r.register n = (.ok g, r')) :
    (∃ stream, g.stream = .ok stream ∧ r'.store.stream = some stream) ∨ g = r.current ∧ r' = r := by
  have updated : ∀ edit : GroupEdit, r.register n = r.update edit.run →
      ∃ stream, g.stream = .ok stream ∧ r'.store.stream = some stream := by
    intro edit eq
    rcases update_cases edit.run r with ⟨next, stream, -, written, -, hupdate⟩ | ⟨_, _, hupdate⟩
    · cases h.symm.trans (eq.trans hupdate)
      exact ⟨stream, written, rfl⟩
    · cases h.symm.trans (eq.trans hupdate)
  cases registering n r with
  | new _ eq => exact Or.inl (updated (.add n) eq)
  | refused _ _ eq => cases h.symm.trans eq
  | back _ _ _ _ eq =>
    cases h.symm.trans eq
    exact Or.inr ⟨rfl, rfl⟩
  | moved _ _ _ _ _ eq => exact Or.inl (updated (.move n.name n.host n.port) eq)

end Registry

end Roster

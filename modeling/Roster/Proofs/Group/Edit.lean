import Roster.Group.Edit
import Roster.Proofs.Group.Stream

/-!
# Edits and the groups they reach

For every edit, what must hold for it to succeed and what it then makes of the group. From this,
every group that can come about is well-formed: empty ones, those read from a stream, and those
that edits and declarations at another format make of them.
-/

namespace Roster

theorem Counter.toNat_succ {n : UInt32} (h : n ≠ Counter.last) : (n + 1).toNat = n.toNat + 1 :=
  Counter.toNat_of_next? (by rw [Counter.next?, if_neg h])

theorem Counter.lt_succ {n : UInt32} (h : n ≠ Counter.last) : n < n + 1 := by
  rw [UInt32.lt_iff_toNat_lt, Counter.toNat_succ h]
  omega

theorem FormatVersion.carriesSoftware_of_le {format newer : FormatVersion} (h : format ≤ newer)
    (carries : format.carriesSoftware = true) : newer.carriesSoftware = true := by
  revert h carries
  cases format <;> cases newer <;> decide

namespace Node

@[simp] theorem restrict_name (n : Node) (format : FormatVersion) :
    (n.restrict format).name = n.name := by
  rw [restrict]
  split <;> rfl

@[simp] theorem restrict_id (n : Node) (format : FormatVersion) : (n.restrict format).id = n.id := by
  rw [restrict]
  split <;> rfl

@[simp] theorem restrict_kind (n : Node) (format : FormatVersion) :
    (n.restrict format).kind = n.kind := by
  rw [restrict]
  split <;> rfl

@[simp] theorem restrict_host (n : Node) (format : FormatVersion) :
    (n.restrict format).host = n.host := by
  rw [restrict]
  split <;> rfl

@[simp] theorem restrict_port (n : Node) (format : FormatVersion) :
    (n.restrict format).port = n.port := by
  rw [restrict]
  split <;> rfl

@[simp] theorem restrict_removed (n : Node) (format : FormatVersion) :
    (n.restrict format).removed = n.removed := by
  rw [restrict]
  split <;> rfl

@[simp] theorem restrict_change (n : Node) (format : FormatVersion) :
    (n.restrict format).change = n.change := by
  rw [restrict]
  split <;> rfl

theorem restrict_software (n : Node) (format : FormatVersion) :
    (n.restrict format).software = if format.carriesSoftware then n.software else none := by
  rw [restrict]
  split <;> rfl

/-- It does not matter which of two formats a record is brought to first. -/
theorem restrict_comm (n : Node) (format other : FormatVersion) :
    (n.restrict format).restrict other = (n.restrict other).restrict format := by
  by_cases carries : format.carriesSoftware = true <;> by_cases carries' : other.carriesSoftware = true <;>
    simp [restrict, carries, carries']

/-- A format leaves the same of a record after another one that carries as much. -/
theorem restrict_restrict (n : Node) {format other : FormatVersion}
    (carries : other.carriesSoftware = true → format.carriesSoftware = true) :
    (n.restrict format).restrict other = n.restrict other := by
  by_cases kept : format.carriesSoftware = true
  · rw [show n.restrict format = n from if_pos kept]
  · have cleared : ¬ other.carriesSoftware = true := fun carries' => kept (carries carries')
    rw [show n.restrict format = { n with software := none } from if_neg kept]
    rw [restrict, restrict, if_neg cleared, if_neg cleared]

theorem restrict_expressible {n : Node} {format : FormatVersion} (h : n.kind.oldestFormat ≤ format) :
    (n.restrict format).Expressible format := by
  refine ⟨by rwa [restrict_kind], fun hs => ?_⟩
  rw [restrict, if_neg (by rw [hs]; exact Bool.false_ne_true)]

theorem Expressible.restrict_eq {n : Node} {format : FormatVersion} (h : n.Expressible format) :
    n.restrict format = n := by
  by_cases hs : format.carriesSoftware = true
  · rw [restrict, if_pos hs]
  · rw [restrict, if_neg hs, ← h.software (Bool.eq_false_iff.mpr hs)]

/-- What a format cannot carry it does not write either. -/
theorem write_restrict (n : Node) (format : FormatVersion) :
    (n.restrict format).write format = n.write format := by
  by_cases hs : format.carriesSoftware = true
  · rw [restrict, if_pos hs]
  · simp [restrict, write, hs]

theorem Fits.restrict {n : Node} {format : FormatVersion} (h : n.Fits format) :
    (n.restrict format).Fits format := by
  by_cases hs : format.carriesSoftware = true
  · rwa [Node.restrict, if_pos hs]
  · rw [Node.restrict, if_neg hs]
    exact ⟨h.name, h.host, fun hs' => absurd hs' hs⟩

/-- The texts of a node that one format can express fit any other format if they fit this one. -/
theorem Expressible.fits {n : Node} {format : FormatVersion} (h : n.Expressible format) (fits : n.Fits format)
    (other : FormatVersion) : n.Fits other := by
  refine ⟨fits.name, fits.host, fun _ software known => ?_⟩
  by_cases carries : format.carriesSoftware = true
  · exact fits.software carries software known
  · rw [h.software (Bool.eq_false_iff.mpr carries)] at known
    cases known

end Node

namespace Records

theorem restrict_comm (r : Records) (format other : FormatVersion) :
    (r.restrict format).restrict other = (r.restrict other).restrict format := by
  apply ext_toList
  simp only [restrict, map, List.map_map]
  exact List.map_congr_left fun n _ => n.restrict_comm format other

theorem restrict_restrict (r : Records) {format other : FormatVersion}
    (carries : other.carriesSoftware = true → format.carriesSoftware = true) :
    (r.restrict format).restrict other = r.restrict other := by
  apply ext_toList
  simp only [restrict, map, List.map_map]
  exact List.map_congr_left fun n _ => n.restrict_restrict carries

theorem secondaryCount_restrict (r : Records) (format : FormatVersion) :
    (r.restrict format).secondaryCount = r.secondaryCount := by
  rw [secondaryCount, secondaryCount, restrict, map, List.countP_map]
  refine List.countP_congr fun n _ => ?_
  simp [Node.isSecondary]

end Records

namespace Group

/-- The record that a group keeps of a node it adds. -/
def enrol (g : Group) (n : Node) : Node :=
  { n with id := g.sequence + 1, change := g.change + 1, removed := false }.restrict g.format

/-- A node that comes as a newer format carries it is added as it is. -/
theorem add_restrict {g : Group} {newer : FormatVersion} (h : g.format ≤ newer) (n : Node) :
    g.add (n.restrict newer) = g.add n := by
  by_cases carries : newer.carriesSoftware = true
  · rw [show n.restrict newer = n from if_pos carries]
  · have older : ¬ g.format.carriesSoftware = true := fun carries' =>
      carries (FormatVersion.carriesSoftware_of_le h carries')
    rw [show n.restrict newer = { n with software := none } from if_neg carries]
    simp only [add, Node.restrict, if_neg older]

def HasMember (g : Group) (name : String) : Prop := ∃ n, g.find? name = some n ∧ n.removed = false

theorem requireMember_eq_ok_iff {g : Group} {name : String} :
    g.requireMember name = .ok () ↔ g.HasMember name := by
  rw [requireMember, HasMember]
  cases g.find? name with
  | none => simp
  | some n => cases h : n.removed <;> simp [h]

theorem add_eq_ok_iff {g g' : Group} {n : Node} :
    g.add n = .ok g' ↔ g.find? n.name = none ∧ n.kind.oldestFormat ≤ g.format ∧
      g.change ≠ Counter.last ∧ g.sequence ≠ Counter.last ∧
      g' = { g with
        change := g.change + 1, sequence := g.sequence + 1, records := g.records.insert (g.enrol n) } := by
  rw [add]
  constructor
  · intro h
    obtain ⟨hfree, h⟩ := guard_bind_eq_ok_iff.mp h
    obtain ⟨hkind, h⟩ := guard_bind_eq_ok_iff.mp h
    obtain ⟨change, hchange, h⟩ := bind_eq_ok_iff.mp h
    obtain ⟨id, hid, h⟩ := bind_eq_ok_iff.mp h
    obtain ⟨hc, rfl⟩ := Counter.next_eq_ok_iff.mp hchange
    obtain ⟨hs, rfl⟩ := Counter.next_eq_ok_iff.mp hid
    cases h
    exact ⟨by simpa using hfree, Decidable.not_not.mp hkind, hc, hs, rfl⟩
  · rintro ⟨hfree, hkind, hc, hs, rfl⟩
    refine guard_bind_eq_ok_iff.mpr ⟨by simp [hfree], guard_bind_eq_ok_iff.mpr
      ⟨not_not_intro hkind, bind_eq_ok_iff.mpr ⟨_, Counter.next_eq_ok_iff.mpr ⟨hc, rfl⟩,
        bind_eq_ok_iff.mpr ⟨_, Counter.next_eq_ok_iff.mpr ⟨hs, rfl⟩, rfl⟩⟩⟩⟩

theorem remove_eq_ok_iff {g g' : Group} {name : String} :
    g.remove name = .ok g' ↔ g.HasMember name ∧ g.change ≠ Counter.last ∧
      g' = { g with
        change := g.change + 1, records := g.records.markRemoved name (g.change + 1) } := by
  rw [remove]
  constructor
  · intro h
    obtain ⟨change, hchange, h⟩ := bind_eq_ok_iff.mp h
    obtain ⟨⟨⟩, hmember, h⟩ := bind_eq_ok_iff.mp h
    obtain ⟨hc, rfl⟩ := Counter.next_eq_ok_iff.mp hchange
    cases h
    exact ⟨requireMember_eq_ok_iff.mp hmember, hc, rfl⟩
  · rintro ⟨hmember, hc, rfl⟩
    exact bind_eq_ok_iff.mpr ⟨_, Counter.next_eq_ok_iff.mpr ⟨hc, rfl⟩,
      bind_eq_ok_iff.mpr ⟨(), requireMember_eq_ok_iff.mpr hmember, rfl⟩⟩

theorem member_eq_ok_iff {g : Group} {name : String} {n : Node} :
    g.member name = .ok n ↔ g.find? name = some n := by
  rw [member]
  cases g.find? name <;> simp

theorem delete_eq_ok_iff {g g' : Group} {name : String} :
    g.delete name = .ok g' ↔ (∃ n, g.find? name = some n) ∧ g.change ≠ Counter.last ∧
      g' = { g with change := g.change + 1, records := g.records.erase name } := by
  simp only [← member_eq_ok_iff]
  rw [delete]
  constructor
  · intro h
    obtain ⟨n, hn, h⟩ := bind_eq_ok_iff.mp h
    obtain ⟨change, hchange, h⟩ := bind_eq_ok_iff.mp h
    obtain ⟨hc, rfl⟩ := Counter.next_eq_ok_iff.mp hchange
    cases h
    exact ⟨⟨n, refusing_eq_ok_iff.mp hn⟩, hc, rfl⟩
  · rintro ⟨⟨n, hn⟩, hc, rfl⟩
    exact bind_eq_ok_iff.mpr ⟨n, refusing_eq_ok_iff.mpr hn,
      bind_eq_ok_iff.mpr ⟨_, Counter.next_eq_ok_iff.mpr ⟨hc, rfl⟩, rfl⟩⟩

theorem move_eq_ok_iff {g g' : Group} {name host : String} {port : UInt16} :
    g.move name host port = .ok g' ↔ g.HasMember name ∧ g.change ≠ Counter.last ∧
      g' = { g with
        change := g.change + 1, records := g.records.move name host port (g.change + 1) } := by
  rw [move]
  constructor
  · intro h
    obtain ⟨change, hchange, h⟩ := bind_eq_ok_iff.mp h
    obtain ⟨⟨⟩, hmember, h⟩ := bind_eq_ok_iff.mp h
    obtain ⟨hc, rfl⟩ := Counter.next_eq_ok_iff.mp hchange
    cases h
    exact ⟨requireMember_eq_ok_iff.mp hmember, hc, rfl⟩
  · rintro ⟨hmember, hc, rfl⟩
    exact bind_eq_ok_iff.mpr ⟨_, Counter.next_eq_ok_iff.mpr ⟨hc, rfl⟩,
      bind_eq_ok_iff.mpr ⟨(), requireMember_eq_ok_iff.mpr hmember, rfl⟩⟩

theorem convert_eq_ok_iff {g g' : Group} {format : FormatVersion} :
    g.convert format = .ok g' ↔ g.Carries format ∧
      g' = { g with format := format, records := g.records.restrict format } := by
  rw [convert, map_eq_ok_iff, ← checkFormat_eq_ok_iff]
  constructor
  · rintro ⟨⟨⟩, hcheck, rfl⟩
    exact ⟨hcheck, rfl⟩
  · rintro ⟨hcheck, rfl⟩
    exact ⟨(), hcheck, rfl⟩

theorem find?_convert {g g' : Group} {format : FormatVersion} (h : g.convert format = .ok g') (name : String) :
    g'.find? name = (g.find? name).map fun n => n.restrict format := by
  obtain ⟨-, rfl⟩ := convert_eq_ok_iff.mp h
  exact Records.find?_map (fun n => n.restrict_name format) name

end Group

end Roster

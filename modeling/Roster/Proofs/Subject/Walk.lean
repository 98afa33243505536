import Roster.Proofs.Subject.Guarded
import Roster.Proofs.Subject.Name
import Roster.Proofs.Subject.Rendering

/-!
# Hostile bytes

Whatever the bytes are, the readers of names and of certificates take elements off their front and nothing else.
They leave no bound of a slice and no range of a word, and they end with a text or with the cause why there is
none. There is a text only for bytes that are sets of attributes from the first to the last byte.
-/

namespace Roster

theorem Der.forall_of_spellsAll {α : Type} {tag : UInt8} {p : α → Prop} {spells : α → List UInt8 → Prop}
    {items : List α} {bytes : List UInt8}
    (h : SpellsAll tag (fun item content => p item ∧ spells item content) items bytes) :
    (∀ item ∈ items, p item) ∧ SpellsAll tag spells items bytes := by
  induction h with
  | nil => exact ⟨by simp, .nil⟩
  | cons first later ih =>
    obtain ⟨content, ⟨hp, hcontent⟩, hpiece⟩ := first
    exact ⟨List.forall_mem_cons.mpr ⟨hp, ih.1⟩, .cons ⟨content, hcontent, hpiece⟩ ih.2⟩

/-- Only an attribute is read, and nothing may stand behind its value. -/
theorem HeldAttribute.exists_of_read {bytes : List UInt8} {found : Attribute}
    (h : Attribute.read bytes = .ok found) : ∃ a : HeldAttribute, a.Spells bytes := by
  obtain ⟨⟨digits, rest⟩, type, h⟩ := bind_eq_ok_iff.mp h
  obtain ⟨oid, arcs, h⟩ := bind_eq_ok_iff.mp h
  obtain ⟨⟨e, rest'⟩, value, h⟩ := bind_eq_ok_iff.mp h
  obtain ⟨ending, -⟩ := guard_bind_eq_ok_iff.mp h
  obtain ⟨piece, htype, rfl⟩ := Der.spelled_of_expect type
  obtain ⟨proper, whole⟩ := Der.next_eq_ok_iff.mp value
  have none : rest' = [] := by simpa using ending
  subst none
  rw [List.append_nil] at whole
  exact ⟨⟨oid, e, proper⟩, digits, piece, Oid.decode_eq_ok_iff.mp arcs, htype, by rw [whole]⟩

namespace DistinguishedName

open HeldAttribute (Spells SpellsName)

variable {bytes : List UInt8}

theorem exists_of_readRelative {attributes : List Attribute} (h : readRelative bytes = .ok attributes) :
    ∃ set, set ≠ [] ∧ Der.SpellsAll 0x30 Spells set bytes := by
  have some := readRelative_ne_nil h
  obtain ⟨found, read, h⟩ := bind_eq_ok_iff.mp h
  obtain ⟨set, spelled, length⟩ := Der.exists_of_each (fun _ _ => HeldAttribute.exists_of_read) read
  refine ⟨set, ?_, spelled⟩
  rintro rfl
  cases found with
  | nil => cases h
  | cons a rest => cases length

theorem exists_of_read {name : DistinguishedName} (h : read bytes = .ok name) :
    ∃ sets, (∀ set ∈ sets, set ≠ []) ∧ SpellsName sets bytes := by
  obtain ⟨sets, spelled, -⟩ := Der.exists_of_each (fun _ _ => exists_of_readRelative) h
  exact ⟨sets, Der.forall_of_spellsAll spelled⟩

/-- The bytes that have a text are those of sets that can be written. -/
theorem text_read_eq_ok_iff {written : String} : (read bytes).map text = .ok written ↔
    ∃ sets, (∀ set ∈ sets, set ≠ []) ∧ SpellsName sets bytes ∧ Rendered sets written := by
  constructor
  · intro h
    obtain ⟨name, hname, -⟩ := map_eq_ok_iff.mp h
    obtain ⟨sets, nonempty, spelled⟩ := exists_of_read hname
    exact ⟨sets, nonempty, spelled, (text_read_spelled_eq_ok_iff nonempty spelled written).mp h⟩
  · rintro ⟨sets, nonempty, spelled, rendered⟩
    exact (text_read_spelled_eq_ok_iff nonempty spelled written).mpr rendered

end DistinguishedName

theorem Certificate.text_subject_eq_ok_iff {der : List UInt8} {written : String} :
    (subject der).map DistinguishedName.text = .ok written ↔
      ∃ content, Carries content der ∧
        (DistinguishedName.read content).map DistinguishedName.text = .ok written := by
  constructor
  · intro h
    obtain ⟨name, hname, rfl⟩ := map_eq_ok_iff.mp h
    obtain ⟨content, found, read⟩ := bind_eq_ok_iff.mp hname
    exact ⟨content, subjectContent_eq_ok_iff.mp found, by rw [read]; rfl⟩
  · rintro ⟨content, carries, h⟩
    rw [subject_of_carries carries, h]

namespace Guarded

open Der (Element)

/-- An element that is taken off the front is what stood there, and it has a tag and a length at least. Slices and
words are large enough for whatever length is claimed, and half as many rounds as there are bytes are enough for
each loop. A name has a text if and only if it is sets of attributes, and a certificate if its subject has one. -/
theorem reading_stays_in_bounds :
    (∀ bytes e rest, Der.next bytes = .ok (e, rest) →
      e.raw ++ rest = bytes ∧ e.content <:+ e.raw ∧ rest.length + 2 ≤ bytes.length) ∧
    (∀ bytes, next bytes = ((Der.next bytes).map Cut.ofElement).mapError .refused) ∧
    (∀ (bytes : List UInt8) (rounds : Nat), bytes.length ≤ 2 * rounds →
      readName rounds bytes = (DistinguishedName.read bytes).mapError .refused ∧
        subject rounds bytes = (Certificate.subject bytes).mapError .refused) ∧
    (∀ bytes written, (DistinguishedName.read bytes).map DistinguishedName.text = .ok written ↔
      ∃ sets, (∀ set ∈ sets, set ≠ []) ∧ HeldAttribute.SpellsName sets bytes ∧
        DistinguishedName.Rendered sets written) ∧
    ∀ der written, (Certificate.subject der).map DistinguishedName.text = .ok written ↔
      ∃ content, Certificate.Carries content der ∧
        (DistinguishedName.read content).map DistinguishedName.text = .ok written := by
  refine ⟨fun bytes e rest cut => ?_, next_eq, fun bytes rounds enough => ?_, fun bytes written => ?_,
    fun der written => ?_⟩
  · obtain ⟨whole, header⟩ := Der.raw_append_of_next cut
    refine ⟨whole, ⟨e.header, rfl⟩, ?_⟩
    rw [← whole, Element.raw, List.length_append, List.length_append]
    omega
  · exact ⟨readName_eq enough, subject_eq enough⟩
  · exact DistinguishedName.text_read_eq_ok_iff
  · exact Certificate.text_subject_eq_ok_iff

/-- A set that claims to be four gigabytes long. -/
def hostile : List UInt8 := [0x31, 0x84, 0xff, 0xff, 0xff, 0xff]

theorem hostile_length_is_refused :
    Der.next [0x04, 0x83, 0, 0, 1, 7, 9] = .ok (⟨0x04, [0x04, 0x83, 0, 0, 1], [7]⟩, [9]) ∧
      [7] <:+ [0x04, 0x83, 0, 0, 1, (7 : UInt8)] ∧
      hostile.length ≤ 2 * 3 ∧ DistinguishedName.read hostile = .error (.overrun 4294967295) := by
  obtain ⟨front, -, agree, -⟩ := reading_stays_in_bounds
  have cut : Der.next [0x04, 0x83, 0, 0, 1, 7, 9] = .ok (⟨0x04, [0x04, 0x83, 0, 0, 1], [7]⟩, [9]) := by
    decide +kernel
  have few : hostile.length ≤ 2 * 3 := by decide
  have stopped : readName 3 hostile = .error (.refused (.overrun 4294967295)) := by decide +kernel
  refine ⟨cut, (front _ _ _ cut).2.1, few, ?_⟩
  obtain ⟨cause, read, same⟩ := mapError_eq_error_iff.mp ((agree hostile 3 few).1.symm.trans stopped)
  cases same
  exact read

end Guarded

end Roster

import Mathlib.Data.List.Forall2
import Roster.Proofs.Subject.Identifier
import Roster.Proofs.Subject.Text

/-!
# What decides the text of a subject

A certificate's name is read from the content of its subject and from nothing else. For a subject that is
spelled with sets of attributes, the reader fails if and only if some attribute has a value that is announced
as text and is none; otherwise the text is that of the sets, the last one first.
-/

namespace Roster

section Runs

variable {ε α β γ : Type} {f : α → Except ε β} {as : List α}

theorem mapM_eq_ok_iff_forall₂ {R : α → β → Prop} (each : ∀ a b, f a = .ok b ↔ R a b) {bs : List β} :
    as.mapM f = .ok bs ↔ List.Forall₂ R as bs := by
  induction as generalizing bs with
  | nil =>
    rw [List.forall₂_nil_left_iff]
    exact ⟨fun h => by cases h; rfl, fun h => h ▸ rfl⟩
  | cons a as ih =>
    rw [List.mapM_cons, bind_eq_ok_iff, List.forall₂_cons_left_iff]
    constructor
    · rintro ⟨b, hb, h⟩
      obtain ⟨more, hmore, h⟩ := bind_eq_ok_iff.mp h
      cases h
      exact ⟨b, more, (each a b).mp hb, ih.mp hmore, rfl⟩
    · rintro ⟨b, more, hb, hmore, rfl⟩
      exact ⟨b, (each a b).mpr hb, bind_eq_ok_iff.mpr ⟨more, ih.mpr hmore, rfl⟩⟩

/-- A run fails if one of its items does. -/
theorem exists_mapM_eq_error_iff :
    (∃ cause, as.mapM f = .error cause) ↔ ∃ a ∈ as, ∃ cause, f a = .error cause := by
  constructor
  · rintro ⟨cause, h⟩
    obtain ⟨a, mem, h⟩ := mapM_eq_error h
    exact ⟨a, mem, cause, h⟩
  · rintro ⟨a, mem, cause, h⟩
    induction as with
    | nil => cases mem
    | cons b as ih =>
      rw [List.mapM_cons]
      cases first : f b with
      | error other => exact ⟨other, rfl⟩
      | ok result =>
        rcases List.mem_cons.mp mem with rfl | mem
        · cases first.symm.trans h
        · obtain ⟨other, later⟩ := ih mem
          exact ⟨other, by rw [later]; rfl⟩

theorem map_mapM (f : α → Except ε β) (g : β → γ) (as : List α) :
    (as.mapM f).map (List.map g) = as.mapM fun a => (f a).map g := by
  induction as with
  | nil => rfl
  | cons a as ih =>
    rw [List.mapM_cons, List.mapM_cons, ← ih]
    cases f a with
    | error cause => rfl
    | ok b => cases as.mapM f <;> rfl

end Runs

/-- An attribute as a certificate holds it: its value is an element that has not been interpreted. -/
structure HeldAttribute where
  oid : Oid
  value : Der.Element
  proper : value.Proper

namespace HeldAttribute

def Spells (a : HeldAttribute) (bytes : List UInt8) : Prop :=
  ∃ digits type, Oid.Spells a.oid digits ∧ Der.Spells 0x06 digits type ∧ bytes = type ++ a.value.raw

/-- The bytes of a name that holds the sets of attributes. -/
def SpellsName : List (List HeldAttribute) → List UInt8 → Prop :=
  Der.SpellsAll 0x31 (Der.SpellsAll 0x30 Spells)

/-- How an attribute is written: only an attribute of a well-known type can be written with its text. -/
inductive Written (a : HeldAttribute) : String → Prop
  | text {name s : String} {kind : TextKind} (known : Attribute.shortName? a.oid = some name)
      (announced : TextKind.ofTag? a.value.tag = some kind) (spelled : kind.Spells s a.value.content) :
      Written a (name ++ "=" ++ Escape.text s)
  | element {name : String} (known : Attribute.shortName? a.oid = some name)
      (other : TextKind.ofTag? a.value.tag = none) : Written a (name ++ "=#" ++ Hex.text a.value.raw)
  | unknown (unknown : Attribute.shortName? a.oid = none) :
      Written a (Oid.text a.oid ++ "=#" ++ Hex.text a.value.raw)

/-- The value of a well-known attribute is announced as text and spells none. -/
def Garbled (a : HeldAttribute) : Prop :=
  ∃ name kind, Attribute.shortName? a.oid = some name ∧ TextKind.ofTag? a.value.tag = some kind ∧
    ∀ s, ¬ kind.Spells s a.value.content

/-- What the reader makes of the attribute. -/
def reading (a : HeldAttribute) : Except SubjectError Attribute :=
  (Attribute.valueOf a.oid a.value).map (Attribute.mk a.oid)

/-- The text of what the reader makes of the attribute. -/
def writing (a : HeldAttribute) : Except SubjectError String := a.reading.map Attribute.text

variable {a : HeldAttribute} {bytes : List UInt8}

theorem read_spelled (spelled : a.Spells bytes) : Attribute.read bytes = a.reading := by
  obtain ⟨digits, type, hoid, htype, rfl⟩ := spelled
  have value := Der.next_raw a.proper []
  rw [List.append_nil] at value
  rw [Attribute.read, Der.expect_spelled htype]
  change (Oid.decode digits >>= _) = _
  rw [Oid.decode_spelled hoid]
  change (Der.next a.value.raw >>= _) = _
  rw [value]
  change (Attribute.valueOf a.oid a.value >>= fun v => pure (Attribute.mk a.oid v)) = _
  rw [reading]
  cases Attribute.valueOf a.oid a.value <;> rfl

theorem writing_eq (a : HeldAttribute) :
    a.writing =
      match Attribute.shortName? a.oid, TextKind.ofTag? a.value.tag with
      | some name, some kind => (kind.decode a.value.content).map fun s => name ++ "=" ++ Escape.text s
      | some name, none => .ok (name ++ "=#" ++ Hex.text a.value.raw)
      | none, _ => .ok (Oid.text a.oid ++ "=#" ++ Hex.text a.value.raw) := by
  rw [writing, reading, Attribute.valueOf]
  cases known : Attribute.shortName? a.oid with
  | none => simp [Except.map, Attribute.text, known]
  | some name =>
    cases TextKind.ofTag? a.value.tag with
    | none => simp [Except.map, Attribute.text, known]
    | some kind =>
      cases decoded : kind.decode a.value.content <;> simp [Except.map, Attribute.text, known, decoded]

theorem writing_eq_ok_iff (a : HeldAttribute) (written : String) :
    a.writing = .ok written ↔ a.Written written := by
  rw [writing_eq]
  constructor
  · intro h
    split at h
    · rename_i name kind known announced
      obtain ⟨s, decoded, rfl⟩ := map_eq_ok_iff.mp h
      exact .text known announced (TextKind.decode_eq_ok_iff.mp decoded)
    · rename_i name known other
      cases h
      exact .element known other
    · rename_i unknown
      cases h
      exact .unknown unknown
  · intro h
    cases h with
    | text known announced spelled =>
      rw [known, announced]
      exact map_eq_ok_iff.mpr ⟨_, TextKind.decode_eq_ok_iff.mpr spelled, rfl⟩
    | element known other => rw [known, other]
    | unknown unknown => rw [unknown]

/-- An attribute is garbled if there is no way to write it. -/
theorem garbled_iff (a : HeldAttribute) : a.Garbled ↔ ∀ written, ¬ a.Written written := by
  constructor
  · rintro ⟨name, kind, known, announced, never⟩ written h
    cases h with
    | text _ announced' spelled =>
      cases announced.symm.trans announced'
      exact never _ spelled
    | element _ other => cases announced.symm.trans other
    | unknown unknown => cases known.symm.trans unknown
  · intro never
    cases known : Attribute.shortName? a.oid with
    | none => exact absurd (.unknown known) (never _)
    | some name =>
      cases announced : TextKind.ofTag? a.value.tag with
      | none => exact absurd (.element known announced) (never _)
      | some kind =>
        exact ⟨name, kind, known, announced, fun s spelled => never _ (.text known announced spelled)⟩

theorem reading_eq_error_iff (a : HeldAttribute) : (∃ cause, a.reading = .error cause) ↔ a.Garbled := by
  rw [garbled_iff]
  simp only [← writing_eq_ok_iff, writing]
  cases a.reading <;> simp [Except.map]

end HeldAttribute

namespace DistinguishedName

open HeldAttribute (Spells SpellsName Written)

/-- Attributes in turn, joined by plus signs; sets in reverse, joined by commas. -/
def joined (texts : List (List String)) : String :=
  ",".intercalate (texts.reverse.map fun attributes => "+".intercalate attributes)

/-- The text of a name that holds the sets of attributes. -/
def Rendered (sets : List (List HeldAttribute)) (written : String) : Prop :=
  ∃ texts, List.Forall₂ (List.Forall₂ Written) sets texts ∧ written = joined texts

theorem text_eq_joined (name : DistinguishedName) : text name = joined (name.map (List.map Attribute.text)) := by
  rw [text, joined, ← List.map_reverse, List.map_map]
  rfl

variable {set : List HeldAttribute} {sets : List (List HeldAttribute)} {bytes : List UInt8}

theorem readRelative_spelled (some : set ≠ []) (spelled : Der.SpellsAll 0x30 Spells set bytes) :
    readRelative bytes = set.mapM HeldAttribute.reading := by
  rw [readRelative, Der.each_spelled spelled fun _ _ _ => HeldAttribute.read_spelled]
  cases set with
  | nil => exact absurd rfl some
  | cons a set =>
    rw [List.mapM_cons]
    cases a.reading with
    | error cause => rfl
    | ok first => cases set.mapM HeldAttribute.reading <;> rfl

theorem read_spelled (nonempty : ∀ set ∈ sets, set ≠ []) (spelled : SpellsName sets bytes) :
    read bytes = sets.mapM (List.mapM HeldAttribute.reading) :=
  Der.each_spelled spelled fun set mem _ => readRelative_spelled (nonempty set mem)

theorem read_spelled_eq_error_iff (nonempty : ∀ set ∈ sets, set ≠ []) (spelled : SpellsName sets bytes) :
    (∃ cause, read bytes = .error cause) ↔ ∃ set ∈ sets, ∃ a ∈ set, a.Garbled := by
  simp only [read_spelled nonempty spelled, exists_mapM_eq_error_iff, HeldAttribute.reading_eq_error_iff]

theorem text_read_spelled (nonempty : ∀ set ∈ sets, set ≠ []) (spelled : SpellsName sets bytes) :
    (read bytes).map text = (sets.mapM (List.mapM HeldAttribute.writing)).map joined := by
  have inner : (fun set => (List.mapM HeldAttribute.reading set).map (List.map Attribute.text)) =
      List.mapM HeldAttribute.writing := funext fun set => map_mapM _ _ set
  rw [← inner, ← map_mapM, read_spelled nonempty spelled]
  cases sets.mapM (List.mapM HeldAttribute.reading) with
  | error cause => rfl
  | ok name => exact congrArg Except.ok (text_eq_joined name)

theorem text_read_spelled_eq_ok_iff (nonempty : ∀ set ∈ sets, set ≠ []) (spelled : SpellsName sets bytes)
    (written : String) : (read bytes).map text = .ok written ↔ Rendered sets written := by
  rw [text_read_spelled nonempty spelled, map_eq_ok_iff]
  refine exists_congr fun texts => and_congr ?_ eq_comm
  refine mapM_eq_ok_iff_forall₂ fun set texts => ?_
  exact mapM_eq_ok_iff_forall₂ HeldAttribute.writing_eq_ok_iff

end DistinguishedName

namespace Certificate

open DistinguishedName (Rendered)

/-- Whatever stands elsewhere in a certificate, its name is the one that its subject's content reads to. That
content, if it is spelled with sets of attributes, is refused if and only if one of them is garbled; otherwise
it has one text, which is that of the sets. -/
theorem subject_alone_is_rendered :
    (∀ content der, Carries content der → subject der = DistinguishedName.read content) ∧
    ∀ sets content, (∀ set ∈ sets, set ≠ []) → HeldAttribute.SpellsName sets content →
      ((∃ cause, DistinguishedName.read content = .error cause) ↔ ∃ set ∈ sets, ∃ a ∈ set, a.Garbled) ∧
      ((∀ set ∈ sets, ∀ a ∈ set, ¬ a.Garbled) → ∃ written,
        (DistinguishedName.read content).map DistinguishedName.text = .ok written ∧
          ∀ other, Rendered sets other ↔ other = written) := by
  refine ⟨fun _ _ carries => subject_of_carries carries, fun sets content nonempty spelled => ?_⟩
  have refused := DistinguishedName.read_spelled_eq_error_iff nonempty spelled
  refine ⟨refused, fun sound => ?_⟩
  cases found : DistinguishedName.read content with
  | error cause =>
    obtain ⟨set, hset, a, ha, garbled⟩ := refused.mp ⟨cause, found⟩
    exact absurd garbled (sound set hset a ha)
  | ok name =>
    refine ⟨name.text, rfl, fun other => ?_⟩
    rw [← DistinguishedName.text_read_spelled_eq_ok_iff nonempty spelled, found]
    exact ⟨fun h => by cases h; rfl, fun h => h ▸ rfl⟩

section Sample

open Der (Element)

/-- The country `DE`. -/
def country : HeldAttribute :=
  ⟨[2, 5, 4, 6], .short 0x13 [0x44, 0x45], Element.proper_short (by decide) (by decide)⟩

/-- A common name of a blank and of a character beyond the first plane. -/
def face : HeldAttribute :=
  ⟨[2, 5, 4, 3], .long 2 0x1e [0x00, 0x20, 0xd8, 0x3d, 0xde, 0x00],
    Element.proper_long (by decide) (by decide) (by decide) (by decide)⟩

/-- The address `a@b`, whose type has no short name. -/
def mail : HeldAttribute :=
  ⟨[1, 2, 840, 113549, 1, 9, 1], .short 0x16 [0x61, 0x40, 0x62],
    Element.proper_short (by decide) (by decide)⟩

/-- An organization whose name is no text. -/
def cut : HeldAttribute :=
  ⟨[2, 5, 4, 10], .short 0x0c [0xff], Element.proper_short (by decide) (by decide)⟩

/-- An attribute behind the digits of its type. -/
def attributeElement (digits : List UInt8) (a : HeldAttribute) : Element :=
  .short 0x30 ((Element.short 0x06 digits).raw ++ a.value.raw)

/-- The country in a set of its own, and behind it the other two in one set. -/
def sampleSubject : List UInt8 :=
  [(Element.short 0x31 [(attributeElement [0x55, 4, 6] country).raw].flatten).raw,
    (Element.long 1 0x31
      [(attributeElement [0x55, 4, 3] face).raw,
        (attributeElement [0x2a, 0x86, 0x48, 0x86, 0xf7, 0x0d, 1, 9, 1] mail).raw].flatten).raw].flatten

/-- The organization alone. -/
def cutSubject : List UInt8 :=
  [(Element.short 0x31 [(attributeElement [0x55, 4, 10] cut).raw].flatten).raw].flatten

/-- A certificate with a version, another name as its issuer and bytes behind each part. -/
def sampleCertificate : List UInt8 :=
  (Element.long 3 0x30
    ((Element.long 2 0x30
      ((Element.short 0xa0 [0x02, 1, 2]).raw ++ ((Element.short 0x02 [7]).raw ++
        ((Element.short 0x30 []).raw ++ ((Element.short 0x30 cutSubject).raw ++
          ((Element.short 0x30 []).raw ++ ((Element.long 4 0x30 sampleSubject).raw ++ [0xa3, 0]))))))).raw ++
      [0x30, 0])).raw ++ [0xff]

theorem attributeElement_spelled (digits : List UInt8) (a : HeldAttribute) (hoid : Oid.Spells a.oid digits)
    (few : digits.length < 128) (small : (attributeElement digits a).content.length < 128) :
    ∃ content, a.Spells content ∧ Der.Spells 0x30 content (attributeElement digits a).raw :=
  ⟨_, ⟨digits, _, hoid, Der.spells_short (by decide) few, rfl⟩, Der.spells_short (by decide) small⟩

theorem attributeType_spelled (arc : UInt8) (low : arc < 0x80) :
    Oid.Spells [2, 5, 4, arc.toNat] [0x55, 4, arc] := by
  have small : arc.toNat < 128 := UInt8.lt_iff_toNat_lt.mp low
  have fits : ∀ n ∈ [85, 4, arc.toNat], n < Oid.limit := by
    simp only [List.forall_mem_cons, Oid.limit, UInt64.size]
    exact ⟨by decide, by decide, by omega, by simp⟩
  have numbers := Pieces.cons (Oid.SpellsNumber.single 0x55 (by decide))
    (.cons (.single 4 (by decide)) (.cons (.single arc low) .nil))
  exact ⟨_, .arcs (Or.inr rfl) [4, arc.toNat], fits, numbers⟩

theorem mailType_spelled : Oid.Spells mail.oid [0x2a, 0x86, 0x48, 0x86, 0xf7, 0x0d, 1, 9, 1] := by
  have company : Oid.SpellsNumber 840 ([0x86] ++ [0x48]) := .digits (by simp) (by decide) (by decide)
  have product : Oid.SpellsNumber 113549 ([0x86, 0xf7] ++ [0x0d]) :=
    .digits (by simp) (by decide) (by decide)
  have numbers := Pieces.cons (Oid.SpellsNumber.single 0x2a (by decide)) (.cons company (.cons product
    (.cons (.single 1 (by decide)) (.cons (.single 9 (by decide)) (.cons (.single 1 (by decide)) .nil)))))
  exact ⟨_, .arcs (Or.inl (by decide)) [840, 113549, 1, 9, 1], by decide, numbers⟩

theorem sampleSubject_spelled : HeldAttribute.SpellsName [[country], [face, mail]] sampleSubject := by
  have hcountry := attributeElement_spelled _ country (attributeType_spelled 6 (by decide)) (by decide)
    (by decide)
  have hface := attributeElement_spelled _ face (attributeType_spelled 3 (by decide)) (by decide) (by decide)
  have hmail := attributeElement_spelled _ mail mailType_spelled (by decide) (by decide)
  refine .cons ⟨_, .cons hcountry .nil, Der.spells_short (by decide) (by decide)⟩ ?_
  refine .cons ⟨_, .cons hface (.cons hmail .nil), ?_⟩ .nil
  exact Der.spells_long (by decide) (by decide) (by decide) (by decide)

theorem cutSubject_spelled : HeldAttribute.SpellsName [[cut]] cutSubject := by
  have hcut := attributeElement_spelled _ cut (attributeType_spelled 10 (by decide)) (by decide) (by decide)
  exact .cons ⟨_, .cons hcut .nil, Der.spells_short (by decide) (by decide)⟩ .nil

theorem sampleCertificate_carries : Carries sampleSubject sampleCertificate := by
  have short : ∀ {tag content}, tag &&& 0x1f ≠ 0x1f → content.length < 128 →
      Tagged tag (Element.short tag content).raw := fun single small => ⟨_, Der.spells_short single small⟩
  refine .intro (Or.inr (short ?_ ?_)) (short ?_ ?_) (short ?_ ?_) (short ?_ ?_) (short ?_ ?_)
    (Der.spells_long ?_ ?_ ?_ ?_) (Der.spells_long ?_ ?_ ?_ ?_) (Der.spells_long ?_ ?_ ?_ ?_)
  all_goals decide

/-- The issuer of the sample could not be rendered, and is not looked at. -/
theorem sample_is_rendered :
    Carries sampleSubject sampleCertificate ∧
      (subject sampleCertificate).map DistinguishedName.text =
        .ok "CN=\\ 😀+1.2.840.113549.1.9.1=#1603614062,C=DE" ∧
      ∃ cause, DistinguishedName.read cutSubject = .error cause := by
  obtain ⟨alone, rendered⟩ := subject_alone_is_rendered
  refine ⟨sampleCertificate_carries, ?_, ?_⟩
  · have hcountry : country.Written ("C" ++ "=" ++ Escape.text "DE") := .text (by decide) rfl (by decide +kernel)
    have hface : face.Written ("CN" ++ "=" ++ Escape.text " 😀") := .text (by decide) rfl (by decide +kernel)
    have hmail := HeldAttribute.Written.unknown (show Attribute.shortName? mail.oid = none by decide)
    have sound : ∀ set ∈ [[country], [face, mail]], ∀ a ∈ set, ¬ a.Garbled := by
      have written : ∀ {a : HeldAttribute} {t : String}, a.Written t → ¬ a.Garbled :=
        fun h garbled => (HeldAttribute.garbled_iff _).mp garbled _ h
      simp [written hcountry, written hface, written hmail]
    obtain ⟨written, found, only⟩ := (rendered _ _ (by simp) sampleSubject_spelled).2 sound
    have texts : DistinguishedName.Rendered [[country], [face, mail]]
        "CN=\\ 😀+1.2.840.113549.1.9.1=#1603614062,C=DE" :=
      ⟨_, .cons (.cons hcountry .nil) (.cons (.cons hface (.cons hmail .nil)) .nil), by decide +kernel⟩
    rw [alone _ _ sampleCertificate_carries, found, (only _).mp texts]
  · refine (rendered _ _ (by simp) cutSubject_spelled).1.mpr ⟨[cut], by simp, cut, by simp, ?_⟩
    refine ⟨"O", .utf8, by decide, by decide, fun s spelled => ?_⟩
    have none : TextKind.utf8.decode [0xff] = .error (.invalidText "string") := by decide +kernel
    cases none.symm.trans (TextKind.decode_eq_ok_iff.mpr spelled)

end Sample

end Certificate

end Roster

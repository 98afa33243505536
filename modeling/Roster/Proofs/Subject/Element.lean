import Mathlib.Algebra.Group.Nat.Defs
import Roster.Proofs.Result
import Roster.Subject.Certificate

/-!
# Elements as they are spelled

What the bytes of an element may be, told without the reader: a tag of one byte, a length in the short form
or in a form of up to four length bytes, and the content. The reader takes such bytes off the front, whatever
stands behind them, and no others, so a run of elements is read piece by piece and the way to a certificate's
subject ends at the subject.
-/

namespace Roster

variable {α β : Type}

/-- The items' spellings one behind the other. -/
inductive Pieces (spells : α → List UInt8 → Prop) : List α → List UInt8 → Prop
  | nil : Pieces spells [] []
  | cons {item : α} {items : List α} {piece bytes : List UInt8} (first : spells item piece)
      (later : Pieces spells items bytes) : Pieces spells (item :: items) (piece ++ bytes)

namespace Der

/-- The bytes a length may have. A long form gives the number of its length bytes first, and it need not be
the shortest one. -/
inductive SpellsLength (n : Nat) : List UInt8 → Prop
  | short (small : n < 128) : SpellsLength n [UInt8.ofNat n]
  | long {digits : List UInt8} (some : digits ≠ []) (few : digits.length ≤ 4)
      (value : BigEndian.value digits = n) :
      SpellsLength n (UInt8.ofNat (128 + digits.length) :: digits)

namespace Element

/-- The tag is a single byte, and the header is one of the tag and the content. -/
structure Proper (e : Element) : Prop where
  single : e.tag &&& 0x1f ≠ 0x1f
  header : ∃ length, SpellsLength e.content.length length ∧ e.header = e.tag :: length

def short (tag : UInt8) (content : List UInt8) : Element :=
  ⟨tag, [tag, UInt8.ofNat content.length], content⟩

def long (width : Nat) (tag : UInt8) (content : List UInt8) : Element :=
  ⟨tag, tag :: UInt8.ofNat (128 + width) :: BigEndian.encode width content.length, content⟩

variable {tag : UInt8} {content : List UInt8}

theorem proper_short (single : tag &&& 0x1f ≠ 0x1f) (small : content.length < 128) :
    (short tag content).Proper :=
  ⟨single, _, .short small, rfl⟩

/-- Any number of length bytes will do that the length fits in. -/
theorem proper_long {width : Nat} (single : tag &&& 0x1f ≠ 0x1f) (some : 0 < width) (few : width ≤ 4)
    (fits : content.length < 256 ^ width) : (long width tag content).Proper := by
  have length := BigEndian.length_encode width content.length
  refine ⟨single, _, .long ?_ ?_ (BigEndian.value_encode fits), ?_⟩
  · exact List.length_pos_iff.mp (length.symm ▸ some)
  · exact length.symm ▸ few
  · rw [long, length]

end Element

/-- The bytes are an element with the tag and the content. -/
def Spells (tag : UInt8) (content bytes : List UInt8) : Prop :=
  ∃ e : Element, e.Proper ∧ e.tag = tag ∧ e.content = content ∧ e.raw = bytes

variable {tag : UInt8} {what : String} {content piece : List UInt8}

theorem spells_short (single : tag &&& 0x1f ≠ 0x1f) (small : content.length < 128) :
    Spells tag content (Element.short tag content).raw :=
  ⟨_, Element.proper_short single small, rfl, rfl, rfl⟩

theorem spells_long {width : Nat} (single : tag &&& 0x1f ≠ 0x1f) (some : 0 < width) (few : width ≤ 4)
    (fits : content.length < 256 ^ width) : Spells tag content (Element.long width tag content).raw :=
  ⟨_, Element.proper_long single some few fits, rfl, rfl, rfl⟩

/-- Elements of one tag, each around the spelling of an item. -/
def SpellsAll (tag : UInt8) (spells : α → List UInt8 → Prop) : List α → List UInt8 → Prop :=
  Pieces fun item bytes => ∃ content, spells item content ∧ Spells tag content bytes

theorem body_append (tag : UInt8) (header content rest : List UInt8) :
    body tag header content.length (content ++ rest) = .ok (⟨tag, header, content⟩, rest) := by
  rw [body, List.take_left, List.drop_left, if_neg (Nat.lt_irrefl _)]

theorem longForm_append {digits : List UInt8} (some : digits ≠ []) (few : digits.length ≤ 4)
    (tag first : UInt8) (rest : List UInt8) :
    longForm tag first digits.length (digits ++ rest) =
      body tag (tag :: first :: digits) (BigEndian.value digits) rest := by
  have count : digits.length ≠ 0 := mt List.length_eq_zero_iff.mp some
  rw [longForm, List.take_left, List.drop_left, if_neg (by omega)]

/-- The reader takes the bytes of an element off the front. -/
theorem next_raw {e : Element} (proper : e.Proper) (rest : List UInt8) :
    next (e.raw ++ rest) = .ok (e, rest) := by
  obtain ⟨tag, header, content⟩ := e
  obtain ⟨length, spelled, heq⟩ := proper.header
  simp only at spelled heq
  subst heq
  have single : tag &&& 0x1f ≠ 0x1f := proper.single
  cases spelled with
  | short small =>
    have value : (UInt8.ofNat content.length).toNat = content.length := by
      rw [UInt8.toNat_ofNat']
      omega
    have low : UInt8.ofNat content.length < 0x80 := UInt8.lt_iff_toNat_lt.mpr (value.symm ▸ small)
    simp only [Element.raw, List.cons_append, List.nil_append, next]
    rw [if_neg single, if_pos low, value, body_append]
  | @long digits some few value =>
    have announced : (UInt8.ofNat (128 + digits.length)).toNat = 128 + digits.length := by
      rw [UInt8.toNat_ofNat']
      omega
    have high : ¬ UInt8.ofNat (128 + digits.length) < 0x80 := by
      rw [UInt8.lt_iff_toNat_lt, announced]
      exact Nat.not_lt.mpr (Nat.le_add_right 128 _)
    have count : (UInt8.ofNat (128 + digits.length)).toNat - 0x80 = digits.length := by
      omega
    simp only [Element.raw, List.cons_append, List.append_assoc, next]
    rw [if_neg single, if_neg high, count, longForm_append some few, value, body_append]

theorem header_of_body {tag : UInt8} {header rest after : List UInt8} {length : Nat} {e : Element}
    (h : body tag header length rest = .ok (e, after)) :
    e.tag = tag ∧ e.header = header ∧ e.content.length = length := by
  rw [body] at h
  split at h
  · cases h
  · rename_i whole
    cases h
    refine ⟨rfl, rfl, ?_⟩
    rw [List.length_take] at whole ⊢
    omega

theorem proper_of_longForm {tag first : UInt8} {rest after : List UInt8} {e : Element}
    (single : tag &&& 0x1f ≠ 0x1f) (high : ¬ first < 0x80)
    (h : longForm tag first (first.toNat - 0x80) rest = .ok (e, after)) : e.Proper := by
  have large : 128 ≤ first.toNat := Nat.not_lt.mp fun low => high (UInt8.lt_iff_toNat_lt.mpr low)
  rw [longForm] at h
  split at h
  · cases h
  · rename_i supported
    obtain ⟨rfl, header, content⟩ := header_of_body h
    have count : (rest.take (first.toNat - 0x80)).length = first.toNat - 0x80 := by
      rw [List.length_take] at supported ⊢
      omega
    have announced : UInt8.ofNat (128 + (rest.take (first.toNat - 0x80)).length) = first := by
      rw [count, Nat.add_sub_cancel' large, UInt8.ofNat_toNat]
    have spelled := @SpellsLength.long e.content.length (rest.take (first.toNat - 0x80))
      (List.length_pos_iff.mp (by omega)) (by omega) content.symm
    rw [announced] at spelled
    exact ⟨single, _, spelled, header⟩

theorem proper_of_next {bytes rest : List UInt8} {e : Element} (h : next bytes = .ok (e, rest)) : e.Proper := by
  unfold next at h
  split at h
  · cases h
  · cases h
  · rename_i tag first behind
    by_cases multi : tag &&& 0x1f = 0x1f
    · rw [if_pos multi] at h
      cases h
    rw [if_neg multi] at h
    by_cases low : first < 0x80
    · rw [if_pos low] at h
      obtain ⟨rfl, header, content⟩ := header_of_body h
      have spelled := SpellsLength.short (n := e.content.length) (content ▸ UInt8.lt_iff_toNat_lt.mp low)
      rw [content, UInt8.ofNat_toNat, ← content] at spelled
      exact ⟨multi, _, spelled, header⟩
    · rw [if_neg low] at h
      exact proper_of_longForm multi low h

theorem next_eq_ok_iff {bytes rest : List UInt8} {e : Element} :
    next bytes = .ok (e, rest) ↔ e.Proper ∧ e.raw ++ rest = bytes := by
  constructor
  · intro h
    exact ⟨proper_of_next h, (raw_append_of_next h).1⟩
  · rintro ⟨proper, rfl⟩
    exact next_raw proper rest

theorem expect_spelled (spelled : Spells tag content piece) (what : String) (rest : List UInt8) :
    expect tag what (piece ++ rest) = .ok (content, rest) := by
  obtain ⟨e, proper, rfl, rfl, rfl⟩ := spelled
  refine bind_eq_ok_iff.mpr ⟨(e, rest), next_raw proper rest, ?_⟩
  simp [pure, Except.pure]

theorem spelled_of_expect {bytes rest : List UInt8} (h : expect tag what bytes = .ok (content, rest)) :
    ∃ piece, Spells tag content piece ∧ bytes = piece ++ rest := by
  obtain ⟨⟨e, behind⟩, cut, h⟩ := bind_eq_ok_iff.mp h
  obtain ⟨same, h⟩ := guard_bind_eq_ok_iff.mp h
  cases h
  obtain ⟨proper, whole⟩ := next_eq_ok_iff.mp cut
  exact ⟨e.raw, ⟨e, proper, Decidable.of_not_not same, rfl, rfl⟩, whole.symm⟩

theorem exists_of_spelled (spelled : Spells tag content piece) : ∃ behind, piece = tag :: behind := by
  obtain ⟨e, proper, rfl, -, rfl⟩ := spelled
  obtain ⟨length, -, header⟩ := proper.header
  exact ⟨length ++ e.content, by rw [Element.raw, header, List.cons_append]⟩

theorem length_le_of_spelled (spelled : Spells tag content piece) : content.length ≤ piece.length := by
  obtain ⟨e, -, -, rfl, rfl⟩ := spelled
  rw [Element.raw, List.length_append]
  exact Nat.le_add_left _ _

theorem each_nil (tag : UInt8) (what : String) (interpret : List UInt8 → Except SubjectError β) :
    each tag what interpret [] = .ok [] := by
  rw [each.eq_def]
  rfl

/-- A run that is not at its end begins with an element of the tag. -/
theorem each_of_ne_nil {bytes : List UInt8} (some : bytes ≠ []) (tag : UInt8) (what : String)
    (interpret : List UInt8 → Except SubjectError β) :
    each tag what interpret bytes = do
      let (content, rest) ← expect tag what bytes
      let first ← interpret content
      return first :: (← each tag what interpret rest) := by
  rw [each.eq_def, if_neg (by simpa using some), expect]
  split
  · rename_i cause cut
    rw [cut]
    rfl
  · rename_i e rest cut
    rw [cut]
    change _ = ((if e.tag ≠ tag then throw _ else pure (e.content, rest)) >>= _)
    by_cases other : e.tag ≠ tag
    · rw [if_pos other, if_pos other]
      rfl
    · rw [if_neg other, if_neg other]
      rfl

theorem each_spelled_append (spelled : Spells tag content piece) (what : String)
    (interpret : List UInt8 → Except SubjectError β) (rest : List UInt8) :
    each tag what interpret (piece ++ rest) = do
      let first ← interpret content
      return first :: (← each tag what interpret rest) := by
  have some : piece ++ rest ≠ [] := by
    obtain ⟨behind, rfl⟩ := exists_of_spelled spelled
    exact List.cons_ne_nil _ _
  rw [each_of_ne_nil some, expect_spelled spelled]
  rfl

/-- A run of elements is read item by item, and the first item that cannot be read decides. -/
theorem each_spelled {spells : α → List UInt8 → Prop} {items : List α} {bytes : List UInt8}
    (spelled : SpellsAll tag spells items bytes) {interpret : List UInt8 → Except SubjectError β}
    {reading : α → Except SubjectError β}
    (reads : ∀ item ∈ items, ∀ content, spells item content → interpret content = reading item) :
    each tag what interpret bytes = items.mapM reading := by
  induction spelled with
  | nil => exact each_nil tag what interpret
  | @cons item items piece bytes first later ih =>
    obtain ⟨content, hcontent, hpiece⟩ := first
    obtain ⟨here, there⟩ := List.forall_mem_cons.mp reads
    rw [each_spelled_append hpiece, here content hcontent, ih there, List.mapM_cons]

theorem each_eq_ok {interpret : List UInt8 → Except SubjectError β} {bytes : List UInt8} {bs : List β}
    (h : each tag what interpret bytes = .ok bs) :
    (bytes = [] ∧ bs = []) ∨ ∃ content rest b more, expect tag what bytes = .ok (content, rest) ∧
      interpret content = .ok b ∧ each tag what interpret rest = .ok more ∧ bs = b :: more := by
  by_cases none : bytes = []
  · subst none
    rw [each_nil] at h
    cases h
    exact Or.inl ⟨rfl, rfl⟩
  · rw [each_of_ne_nil none] at h
    obtain ⟨⟨content, rest⟩, cut, h⟩ := bind_eq_ok_iff.mp h
    obtain ⟨b, first, h⟩ := bind_eq_ok_iff.mp h
    obtain ⟨more, later, h⟩ := bind_eq_ok_iff.mp h
    cases h
    exact Or.inr ⟨content, rest, b, more, cut, first, later, rfl⟩

/-- Only runs of elements are read. -/
theorem exists_of_each {spells : α → List UInt8 → Prop} {interpret : List UInt8 → Except SubjectError β}
    (spelled : ∀ content b, interpret content = .ok b → ∃ item, spells item content) {bytes : List UInt8}
    {bs : List β} (h : each tag what interpret bytes = .ok bs) :
    ∃ items, SpellsAll tag spells items bytes ∧ items.length = bs.length := by
  induction bs generalizing bytes with
  | nil =>
    rcases each_eq_ok h with ⟨rfl, -⟩ | ⟨_, _, _, _, _, _, _, heq⟩
    · exact ⟨[], .nil, rfl⟩
    · cases heq
  | cons b bs ih =>
    rcases each_eq_ok h with ⟨-, heq⟩ | ⟨content, rest, _, _, cut, first, later, heq⟩
    · cases heq
    · cases heq
      obtain ⟨piece, hpiece, rfl⟩ := spelled_of_expect cut
      obtain ⟨item, hitem⟩ := spelled content b first
      obtain ⟨items, hitems, length⟩ := ih later
      exact ⟨item :: items, .cons ⟨content, hitem, hpiece⟩ hitems, congrArg (· + 1) length⟩

end Der

namespace Certificate

/-- An element of the tag, whatever its content is. -/
def Tagged (tag : UInt8) (bytes : List UInt8) : Prop := ∃ content, Der.Spells tag content bytes

/-- A certificate as far as the way to its subject needs it. Behind the subject, behind the signed part and
behind the certificate there may be anything. -/
inductive Carries (subject : List UInt8) : List UInt8 → Prop
  | intro {version serial signature issuer validity name others signed extra certificate behind : List UInt8}
      (hversion : version = [] ∨ Tagged 0xa0 version) (hserial : Tagged 0x02 serial)
      (hsignature : Tagged 0x30 signature) (hissuer : Tagged 0x30 issuer) (hvalidity : Tagged 0x30 validity)
      (hname : Der.Spells 0x30 subject name)
      (hsigned : Der.Spells 0x30
        (version ++ (serial ++ (signature ++ (issuer ++ (validity ++ (name ++ others)))))) signed)
      (hcertificate : Der.Spells 0x30 (signed ++ extra) certificate) :
      Carries subject (certificate ++ behind)

/-- The serial number's tag is not the version's, so a version is skipped only if there is one. -/
theorem skipVersion_append {version serial : List UInt8} (hversion : version = [] ∨ Tagged 0xa0 version)
    (hserial : Tagged 0x02 serial) (rest : List UInt8) :
    skipVersion (version ++ (serial ++ rest)) = .ok (serial ++ rest) := by
  rcases hversion with rfl | ⟨content, spelled⟩
  · obtain ⟨content, spelled⟩ := hserial
    obtain ⟨behind, rfl⟩ := Der.exists_of_spelled spelled
    rfl
  · obtain ⟨behind, first⟩ := Der.exists_of_spelled spelled
    obtain ⟨e, proper, -, -, rfl⟩ := spelled
    have whole := Der.next_raw proper (serial ++ rest)
    rw [first, List.cons_append] at whole ⊢
    rw [skipVersion, whole]
    rfl

theorem subjectContent_of_carries {subject der : List UInt8} (carries : Carries subject der) :
    subjectContent der = .ok subject := by
  cases carries with
  | intro hversion hserial hsignature hissuer hvalidity hname hsigned hcertificate =>
    have skipped := skipVersion_append hversion hserial
    obtain ⟨_, hserial⟩ := hserial
    obtain ⟨_, hsignature⟩ := hsignature
    obtain ⟨_, hissuer⟩ := hissuer
    obtain ⟨_, hvalidity⟩ := hvalidity
    refine bind_eq_ok_iff.mpr ⟨_, Der.expect_spelled hcertificate _ _, ?_⟩
    refine bind_eq_ok_iff.mpr ⟨_, Der.expect_spelled hsigned _ _, ?_⟩
    refine bind_eq_ok_iff.mpr ⟨_, skipped _, ?_⟩
    refine bind_eq_ok_iff.mpr ⟨_, Der.expect_spelled hserial _ _, ?_⟩
    refine bind_eq_ok_iff.mpr ⟨_, Der.expect_spelled hsignature _ _, ?_⟩
    refine bind_eq_ok_iff.mpr ⟨_, Der.expect_spelled hissuer _ _, ?_⟩
    refine bind_eq_ok_iff.mpr ⟨_, Der.expect_spelled hvalidity _ _, ?_⟩
    exact bind_eq_ok_iff.mpr ⟨_, Der.expect_spelled hname _ _, rfl⟩

theorem length_le_of_carries {subject der : List UInt8} (carries : Carries subject der) :
    subject.length ≤ der.length := by
  cases carries with
  | intro _ _ _ _ _ hname hsigned hcertificate =>
    have name := Der.length_le_of_spelled hname
    have signed := Der.length_le_of_spelled hsigned
    have certificate := Der.length_le_of_spelled hcertificate
    simp only [List.length_append] at signed certificate ⊢
    omega

theorem version_of_skipVersion {bytes rest : List UInt8} (h : skipVersion bytes = .ok rest) :
    ∃ version, (version = [] ∨ Tagged 0xa0 version) ∧ bytes = version ++ rest := by
  unfold skipVersion at h
  split at h
  · obtain ⟨⟨e, behind⟩, cut, rfl⟩ := map_eq_ok_iff.mp h
    obtain ⟨proper, whole⟩ := Der.next_eq_ok_iff.mp cut
    refine ⟨e.raw, Or.inr ⟨e.content, e, proper, ?_, rfl, rfl⟩, whole.symm⟩
    obtain ⟨length, -, header⟩ := proper.header
    rw [Der.Element.raw, header] at whole
    exact (List.cons.inj whole).1
  · cases h
    exact ⟨[], Or.inl rfl, rfl⟩

/-- Only a certificate has a subject. -/
theorem subjectContent_eq_ok_iff {subject der : List UInt8} :
    subjectContent der = .ok subject ↔ Carries subject der := by
  refine ⟨fun h => ?_, subjectContent_of_carries⟩
  obtain ⟨⟨certificate, _⟩, outer, h⟩ := bind_eq_ok_iff.mp h
  obtain ⟨⟨signed, _⟩, inner, h⟩ := bind_eq_ok_iff.mp h
  obtain ⟨rest, skipped, h⟩ := bind_eq_ok_iff.mp h
  obtain ⟨⟨_, rest⟩, serial, h⟩ := bind_eq_ok_iff.mp h
  obtain ⟨⟨_, rest⟩, signature, h⟩ := bind_eq_ok_iff.mp h
  obtain ⟨⟨_, rest⟩, issuer, h⟩ := bind_eq_ok_iff.mp h
  obtain ⟨⟨_, rest⟩, validity, h⟩ := bind_eq_ok_iff.mp h
  obtain ⟨⟨content, _⟩, name, h⟩ := bind_eq_ok_iff.mp h
  cases h
  obtain ⟨_, hcertificate, rfl⟩ := Der.spelled_of_expect outer
  obtain ⟨_, hsigned, rfl⟩ := Der.spelled_of_expect inner
  obtain ⟨_, hversion, rfl⟩ := version_of_skipVersion skipped
  obtain ⟨_, hserial, rfl⟩ := Der.spelled_of_expect serial
  obtain ⟨_, hsignature, rfl⟩ := Der.spelled_of_expect signature
  obtain ⟨_, hissuer, rfl⟩ := Der.spelled_of_expect issuer
  obtain ⟨_, hvalidity, rfl⟩ := Der.spelled_of_expect validity
  obtain ⟨_, hname, rfl⟩ := Der.spelled_of_expect name
  exact .intro hversion ⟨_, hserial⟩ ⟨_, hsignature⟩ ⟨_, hissuer⟩ ⟨_, hvalidity⟩ hname hsigned
    hcertificate

/-- The issuer in particular is passed over. -/
theorem subject_of_carries {subject der : List UInt8} (carries : Carries subject der) :
    Certificate.subject der = DistinguishedName.read subject := by
  rw [Certificate.subject, subjectContent_of_carries carries]
  rfl

end Certificate

end Roster

import Roster.Proofs.Result
import Roster.Proofs.Subject.Escape
import Roster.Proofs.Token.Stream
import Roster.Subject.Name

/-!
# Names are told apart by their texts

Two names that are written alike are the same name: the same relative names in the same order, each
with the same attributes in the same order.
-/

namespace Roster

open Escape (Sealed Stopped)

namespace Oid

theorem toList_text (oid : Oid) :
    (text oid).toList = ['.'].intercalate (oid.map fun n => Nat.toDigits 10 n) := by
  simp only [text, String.toList_intercalate, List.map_map]
  exact congrArg _ (List.map_congr_left fun _ _ => Nat.toList_repr)

/-- The characters of numbers and of the points between them. -/
theorem isDigit_or_point {oid : Oid} {c : Char} (h : c ∈ (text oid).toList) :
    c.isDigit = true ∨ c = '.' := by
  rw [toList_text] at h
  rcases mem_intercalate h with rfl | ⟨piece, hpiece, hc⟩
  · exact Or.inr rfl
  · obtain ⟨n, -, rfl⟩ := List.mem_map.mp hpiece
    exact Or.inl (Nat.isDigit_of_mem_toDigits (by decide) (by decide) hc)

theorem text_injective {a b : Oid} (h : text a = text b) : a = b := by
  have pieces : ∀ oid : Oid, ∀ digits ∈ oid.map fun n => Nat.toDigits 10 n,
      digits ≠ [] ∧ Sealed (· == '.') digits := by
    intro oid digits mem
    obtain ⟨n, -, rfl⟩ := List.mem_map.mp mem
    refine ⟨Nat.toDigits_ne_nil, Escape.sealed_of_plain fun c hc => ?_⟩
    have digit : c.isDigit = true := Nat.isDigit_of_mem_toDigits (by decide) (by decide) hc
    constructor
    · rintro rfl
      cases digit
    · refine Bool.eq_false_iff.mpr fun point => ?_
      rw [beq_iff_eq.mp point] at digit
      cases digit
  have same := congrArg String.toList h
  rw [toList_text, toList_text] at same
  have digits := Escape.intercalate_inj (by decide) (pieces a) (pieces b) same
  refine (List.map_inj_right fun m n hmn => ?_).mp digits
  calc
    m = Nat.ofDigitChars 10 (Nat.toDigits 10 m) 0 := Nat.ofDigitChars_ten_toDigits.symm
    _ = Nat.ofDigitChars 10 (Nat.toDigits 10 n) 0 := by rw [hmn]
    _ = n := Nat.ofDigitChars_ten_toDigits

end Oid

namespace Attribute

/-- How an attribute's type is written. -/
def label (oid : Oid) : String := (shortName? oid).getD (Oid.text oid)

/-- How an attribute's value is written. -/
def shown : AttributeValue → List Char
  | .text s => Escape.encode s.toList
  | .raw element => '#' :: Hex.encode element

theorem toList_text (a : Attribute) : a.text.toList = (label a.oid).toList ++ '=' :: shown a.value := by
  rw [text, label]
  cases a.value <;> simp [shown, Escape.text, Hex.text]

theorem mem_shortNames {oid : Oid} {name : String} (h : shortName? oid = some name) :
    (oid, name) ∈ shortNames := by
  obtain ⟨before, after, eq, -⟩ := List.lookup_eq_some_iff.mp h
  rw [eq]
  exact List.mem_append_right before List.mem_cons_self

/-- No short name is spelled with digits and points only. -/
theorem shortName_ne_text {oid other : Oid} {name : String} (h : shortName? oid = some name) :
    name ≠ Oid.text other := by
  have letters : (shortNames.all fun e => e.2.toList.any fun c => !(c.isDigit || c == '.')) = true := by
    decide
  obtain ⟨c, mem, letter⟩ := List.any_eq_true.mp (List.all_eq_true.mp letters _ (mem_shortNames h))
  rintro rfl
  rcases Oid.isDigit_or_point mem with digit | rfl
  · simp [digit] at letter
  · cases letter

theorem label_injective {a b : Oid} (h : label a = label b) : a = b := by
  have distinct : ∀ e ∈ shortNames, ∀ f ∈ shortNames, e.2 = f.2 → e.1 = f.1 := by decide
  rw [label, label] at h
  cases ha : shortName? a with
  | none =>
    cases hb : shortName? b with
    | none =>
      rw [ha, hb] at h
      exact Oid.text_injective h
    | some name =>
      rw [ha, hb] at h
      exact absurd h.symm (shortName_ne_text hb)
  | some name =>
    cases hb : shortName? b with
    | none =>
      rw [ha, hb] at h
      exact absurd h (shortName_ne_text ha)
    | some other =>
      rw [ha, hb] at h
      exact distinct _ (mem_shortNames ha) _ (mem_shortNames hb) h

theorem label_alphanum {oid : Oid} {c : Char} (h : c ∈ (label oid).toList) :
    c.isAlphanum = true ∨ c = '.' := by
  have short : (shortNames.all fun e => e.2.toList.all Char.isAlphanum) = true := by decide
  rw [label] at h
  cases known : shortName? oid with
  | none =>
    rw [known] at h
    refine (Oid.isDigit_or_point h).imp_left fun digit => ?_
    rw [Char.isAlphanum, digit, Bool.or_true]
  | some name =>
    rw [known] at h
    have spelled := List.all_eq_true.mp short _ (mem_shortNames known)
    exact Or.inl (List.all_eq_true.mp spelled c h)

theorem sealed_label {stops : Char → Bool}
    (special : ∀ c, stops c = true → c.isAlphanum = false ∧ c ≠ '.') (oid : Oid) :
    Sealed stops (label oid).toList := by
  refine Escape.sealed_of_plain fun c hc => ?_
  have plain := label_alphanum hc
  constructor
  · rintro rfl
    exact absurd plain (by decide)
  · refine Bool.eq_false_iff.mpr fun stop => ?_
    obtain ⟨sign, point⟩ := special c stop
    exact plain.elim (fun letter => Bool.eq_false_iff.mp sign letter) point

theorem shown_injective {v w : AttributeValue} (h : shown v = shown w) : v = w := by
  cases v with
  | text s =>
    cases w with
    | text s' => rw [String.toList_injective (Escape.encode_injective h)]
    | raw element => exact absurd h (Escape.encode_ne_cons _ _)
  | raw element =>
    cases w with
    | text s => exact absurd h.symm (Escape.encode_ne_cons _ _)
    | raw element' =>
      have bytes := Hex.decode?_encode element
      rw [(List.cons.inj h).2, Hex.decode?_encode] at bytes
      rw [Option.some.inj bytes]

theorem text_injective {a b : Attribute} (h : a.text = b.text) : a = b := by
  have equals : ∀ c, (c == '=') = true → c.isAlphanum = false ∧ c ≠ '.' := by
    intro c hc
    rw [beq_iff_eq.mp hc]
    decide
  have stopped : ∀ v, Stopped (· == '=') ('=' :: shown v) := fun v => Escape.stopped_cons rfl _
  have same := congrArg String.toList h
  rw [toList_text, toList_text] at same
  obtain ⟨labels, values⟩ := (sealed_label equals a.oid).append_inj rfl (sealed_label equals b.oid)
    (stopped _) (stopped _) same
  have oid := label_injective (String.toList_injective labels)
  have value := shown_injective (List.cons.inj values).2
  cases a
  cases b
  cases oid
  cases value
  rfl

/-- The signs between attributes and between relative names. -/
def separates (c : Char) : Bool := c == '+' || c == ','

theorem separates_iff {c : Char} : separates c = true ↔ c = '+' ∨ c = ',' := by
  rw [separates, Bool.or_eq_true_iff, beq_iff_eq, beq_iff_eq]

theorem sealed_shown (v : AttributeValue) : Sealed separates (shown v) := by
  cases v with
  | text s =>
    refine Escape.sealed_encode (fun c stop => ?_) _
    rcases separates_iff.mp stop with rfl | rfl <;> decide
  | raw element =>
    refine .plain (by decide) rfl (Escape.sealed_of_plain fun c hc => ?_)
    have digit := Hex.isDigit_of_mem_encode hc
    constructor
    · rintro rfl
      exact absurd digit (by decide)
    · refine Bool.eq_false_iff.mpr fun stop => ?_
      rcases separates_iff.mp stop with rfl | rfl <;> exact absurd digit (by decide)

/-- An attribute is written without a bare separator. -/
theorem sealed_text (a : Attribute) : Sealed separates a.text.toList := by
  rw [toList_text]
  refine (sealed_label (fun c stop => ?_) _).append (.plain (by decide) rfl (sealed_shown a.value))
  rcases separates_iff.mp stop with rfl | rfl <;> decide

theorem text_ne_nil (a : Attribute) : a.text.toList ≠ [] := by
  rw [toList_text]
  exact List.append_ne_nil_of_right_ne_nil _ (List.cons_ne_nil _ _)

end Attribute

namespace DistinguishedName

/-- How a relative name is written. -/
def relativeText (attributes : List Attribute) : List Char :=
  ['+'].intercalate (attributes.map fun a => a.text.toList)

theorem toList_text (name : DistinguishedName) :
    (text name).toList = [','].intercalate (name.reverse.map relativeText) := by
  simp only [text, String.toList_intercalate, List.map_map]
  refine congrArg _ (List.map_congr_left fun attributes _ => ?_)
  simp only [Function.comp_apply, String.toList_intercalate, List.map_map]
  rfl

theorem relativeText_injective {r r' : List Attribute} (h : relativeText r = relativeText r') : r = r' := by
  have pieces : ∀ attributes : List Attribute, ∀ cs ∈ attributes.map fun a => a.text.toList,
      cs ≠ [] ∧ Sealed (· == '+') cs := by
    intro attributes cs mem
    obtain ⟨a, -, rfl⟩ := List.mem_map.mp mem
    refine ⟨a.text_ne_nil, a.sealed_text.mono fun c stop => ?_⟩
    exact Attribute.separates_iff.mpr (Or.inl (beq_iff_eq.mp stop))
  have texts := Escape.intercalate_inj (by decide) (pieces r) (pieces r') h
  exact (List.map_inj_right fun a b same => Attribute.text_injective (String.toList_injective same)).mp texts

theorem sealed_relativeText (r : List Attribute) : Sealed (· == ',') (relativeText r) := by
  refine Escape.sealed_intercalate (by decide) rfl fun cs mem => ?_
  obtain ⟨a, -, rfl⟩ := List.mem_map.mp mem
  refine a.sealed_text.mono fun c stop => ?_
  exact Attribute.separates_iff.mpr (Or.inr (beq_iff_eq.mp stop))

theorem relativeText_ne_nil {r : List Attribute} (h : r ≠ []) : relativeText r ≠ [] := by
  cases r with
  | nil => exact absurd rfl h
  | cons a rest =>
    rw [relativeText, List.map_cons, intercalate_cons]
    exact List.append_ne_nil_of_left_ne_nil a.text_ne_nil _

/-- Names whose relative names all have attributes are told apart by their texts. -/
theorem text_injective {a b : DistinguishedName} (ha : ∀ r ∈ a, r ≠ []) (hb : ∀ r ∈ b, r ≠ [])
    (h : text a = text b) : a = b := by
  have pieces : ∀ name : DistinguishedName, (∀ r ∈ name, r ≠ []) →
      ∀ cs ∈ name.reverse.map relativeText, cs ≠ [] ∧ Sealed (· == ',') cs := by
    intro name nonempty cs mem
    obtain ⟨r, hr, rfl⟩ := List.mem_map.mp mem
    exact ⟨relativeText_ne_nil (nonempty r (List.mem_reverse.mp hr)), sealed_relativeText r⟩
  have same := congrArg String.toList h
  rw [toList_text, toList_text] at same
  have texts := Escape.intercalate_inj (by decide) (pieces a ha) (pieces b hb) same
  have reversed := (List.map_inj_right fun _ _ => relativeText_injective).mp texts
  exact List.reverse_inj.mp reversed

end DistinguishedName

/-- What is read of a run of elements has been interpreted one by one. -/
theorem Der.mem_each {α : Type} {tag : UInt8} {what : String}
    {interpret : List UInt8 → Except SubjectError α} {bytes : List UInt8} {items : List α}
    (h : Der.each tag what interpret bytes = .ok items) {item : α} (mem : item ∈ items) :
    ∃ content, interpret content = .ok item := by
  fun_induction Der.each tag what interpret bytes generalizing items with
  | case1 =>
    cases h
    cases mem
  | case2 => cases h
  | case3 => cases h
  | case4 bytes nonempty e rest split onward tag_eq =>
    rename_i ih
    obtain ⟨first, hfirst, h⟩ := bind_eq_ok_iff.mp h
    obtain ⟨more, hmore, h⟩ := bind_eq_ok_iff.mp h
    cases h
    rcases List.mem_cons.mp mem with rfl | mem
    · exact ⟨_, hfirst⟩
    · exact ih hmore mem

namespace DistinguishedName

theorem readRelative_ne_nil {bytes : List UInt8} {attributes : List Attribute}
    (h : readRelative bytes = .ok attributes) : attributes ≠ [] := by
  obtain ⟨found, -, h⟩ := bind_eq_ok_iff.mp h
  cases found with
  | nil => cases h
  | cons a rest =>
    cases h
    exact List.cons_ne_nil a rest

theorem read_nonempty {bytes : List UInt8} {name : DistinguishedName} (h : read bytes = .ok name) :
    ∀ r ∈ name, r ≠ [] := by
  intro r mem
  obtain ⟨content, hr⟩ := Der.mem_each h mem
  exact readRelative_ne_nil hr

/-- Bytes that read to the same text read to the same name. -/
theorem read_eq_of_text_eq {bytes bytes' : List UInt8} {written : String}
    (h : (read bytes).map text = .ok written) (h' : (read bytes').map text = .ok written) :
    ∃ name, read bytes = .ok name ∧ read bytes' = .ok name := by
  obtain ⟨name, hname, rfl⟩ := map_eq_ok_iff.mp h
  obtain ⟨name', hname', same⟩ := map_eq_ok_iff.mp h'
  obtain rfl := text_injective (read_nonempty hname') (read_nonempty hname) same
  exact ⟨_, hname, hname'⟩

end DistinguishedName

end Roster

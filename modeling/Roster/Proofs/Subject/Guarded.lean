import Roster.Proofs.Subject.Word
import Roster.Proofs.Token.Field

/-!
# Reading with slices

The reader with machine words for whole names and certificates: a slice has bounds, a length is put together in
a word, a sum must fit in a word, and a loop has so many rounds. With half as many rounds as there are bytes it
gives what the reader proper gives, a name or the cause why there is none.
-/

namespace Roster.Guarded

section Slices

def front (bound : Nat) (bytes : List UInt8) : Except Stop (List UInt8) :=
  if bytes.length < bound then .error .outOfBounds else .ok (bytes.take bound)

def behind (bound : Nat) (bytes : List UInt8) : Except Stop (List UInt8) :=
  if bytes.length < bound then .error .outOfBounds else .ok (bytes.drop bound)

def total (m n : Nat) : Except Stop Nat := if UInt64.size ≤ m + n then .error .outOfRange else .ok (m + n)

/-- A word moved up by a byte, which takes the place that gets free. -/
def shift (n : UInt64) (b : UInt8) : UInt64 := n <<< 8 ||| b.toUInt64

variable {bound m n : Nat} {bytes digits : List UInt8}

theorem front_eq (inside : bound ≤ bytes.length) : front bound bytes = .ok (bytes.take bound) :=
  if_neg (Nat.not_lt.mpr inside)

theorem behind_eq (inside : bound ≤ bytes.length) : behind bound bytes = .ok (bytes.drop bound) :=
  if_neg (Nat.not_lt.mpr inside)

theorem length_take_lt_iff : (bytes.take bound).length < bound ↔ bytes.length < bound := by
  rw [List.length_take]
  omega

theorem total_eq (h : m + n < UInt64.size) : total m n = .ok (m + n) := if_neg (Nat.not_le.mpr h)

theorem toNat_shift {n : UInt64} (room : n.toNat < 72057594037927936) (b : UInt8) :
    (shift n b).toNat = n.toNat * 256 + b.toNat := by
  have disjoint := Nat.two_pow_add_eq_or_of_lt (i := 8) b.toNat_lt n.toNat
  rw [shift, UInt64.toNat_or, UInt64.toNat_shiftLeft, UInt8.toNat_toUInt64, Nat.shiftLeft_eq]
  simp only [UInt64.reduceToNat, Nat.reduceMod, Nat.reducePow] at disjoint ⊢
  rw [Nat.mod_eq_of_lt (by omega), Nat.mul_comm, ← disjoint]

/-- As long as there is room for the digits, no bit is lost. -/
theorem toNat_foldl_shift (width : Nat) {n : UInt64} (small : n.toNat < Nat.pow 256 width)
    (room : width + digits.length ≤ 8) :
    (digits.foldl shift n).toNat = digits.foldl (fun m b => m * 256 + b.toNat) n.toNat := by
  induction digits generalizing width n with
  | nil => rfl
  | cons b digits ih =>
    rw [List.length_cons] at room
    have narrow : Nat.pow 256 width ≤ Nat.pow 256 7 := Nat.pow_le_pow_right (by decide) (by omega)
    have step := toNat_shift (Nat.lt_of_lt_of_le small narrow) b
    have wider : (shift n b).toNat < Nat.pow 256 (width + 1) := by
      have power : Nat.pow 256 (width + 1) = Nat.pow 256 width * 256 := rfl
      have byte := b.toNat_lt
      omega
    rw [List.foldl_cons, ih (width + 1) wider (by omega), step, List.foldl_cons]

theorem toNat_digits (few : digits.length ≤ 4) : (digits.foldl shift 0).toNat = BigEndian.value digits :=
  toNat_foldl_shift 0 (by decide) (by omega)

end Slices

section Elements

/-- An element as slices of the bytes that it was cut from, with those behind it. -/
structure Cut where
  tag : UInt8
  content : List UInt8
  raw : List UInt8
  rest : List UInt8
  deriving DecidableEq, Repr

def Cut.ofElement (found : Der.Element × List UInt8) : Cut :=
  ⟨found.1.tag, found.1.content, found.1.raw, found.2⟩

/-- The length, and what stands behind its bytes. -/
def lengthField (first : UInt8) (rest : List UInt8) : Except Stop (Nat × List UInt8) :=
  if first < 0x80 then .ok (first.toNat, rest)
  else
    let count := (first &&& 0x7f).toNat
    if count = 0 ∨ 4 < count ∨ rest.length < count then .error (.refused .unsupportedLength)
    else do
      let digits ← front count rest
      return ((digits.foldl shift 0).toNat, ← behind count rest)

/-- The slices of an element of that length; its content begins what is left of the bytes. -/
def slices (tag : UInt8) (bytes : List UInt8) (length : Nat) (left : List UInt8) : Except Stop Cut :=
  if left.length < length then .error (.refused (.overrun length))
  else do
    let header ← difference bytes.length left.length
    let content ← front length left
    let raw ← front (← total header length) bytes
    return ⟨tag, content, raw, ← behind length left⟩

def next : List UInt8 → Except Stop Cut
  | [] => .error (.refused .endOfData)
  | [tag] => .error (.refused (if tag &&& 0x1f = 0x1f then .multiByteTag else .missingLength))
  | tag :: first :: rest =>
    if tag &&& 0x1f = 0x1f then .error (.refused .multiByteTag)
    else do
      let (length, left) ← lengthField first rest
      slices tag (tag :: first :: rest) length left

variable {tag first : UInt8} {header rest : List UInt8} {length : Nat}

/-- A header has six bytes at most, and a length field four. -/
theorem slices_eq (few : header.length ≤ 6) (small : length < 4294967296) :
    slices tag (header ++ rest) length rest =
      ((Der.body tag header length rest).map Cut.ofElement).mapError .refused := by
  simp only [slices, Der.body, length_take_lt_iff]
  by_cases overrun : rest.length < length
  · rw [if_pos overrun, if_pos overrun]
    rfl
  have inside : length ≤ rest.length := Nat.not_lt.mp overrun
  have counted : (header ++ rest).length - rest.length = header.length := by
    rw [List.length_append, Nat.add_sub_cancel_right]
  rw [if_neg overrun, if_neg overrun, difference_eq (by simp), counted, front_eq inside, behind_eq inside]
  change (total header.length length >>= _) = _
  rw [total_eq (by simp only [UInt64.size]; omega)]
  change (front (header.length + length) (header ++ rest) >>= _) = _
  rw [front_eq (by simp only [List.length_append]; omega), List.take_length_add_append]
  rfl

theorem toNat_low_of_high (high : ¬ first < 0x80) : (first &&& 0x7f).toNat = first.toNat - 0x80 := by
  have bound := first.toNat_lt
  rw [UInt8.lt_iff_toNat_lt] at high
  rw [toNat_low]
  simp only [UInt8.reduceToNat] at high
  omega

theorem longForm_eq (high : ¬ first < 0x80) :
    (lengthField first rest >>= fun (length, left) => slices tag (tag :: first :: rest) length left) =
      ((Der.longForm tag first (first.toNat - 0x80) rest).map Cut.ofElement).mapError .refused := by
  simp only [lengthField, if_neg high, toNat_low_of_high high, Der.longForm]
  generalize first.toNat - 0x80 = count
  simp only [length_take_lt_iff]
  by_cases unsupported : count = 0 ∨ 4 < count ∨ rest.length < count
  · rw [if_pos unsupported, if_pos unsupported]
    rfl
  have inside : count ≤ rest.length := by omega
  have digits : (rest.take count).length = count := by
    rw [List.length_take]
    omega
  have few : (rest.take count).length ≤ 4 := by omega
  have small : BigEndian.value (rest.take count) < 4294967296 :=
    Nat.lt_of_lt_of_le (BigEndian.value_lt _) (Nat.pow_le_pow_right (by decide) few)
  rw [if_neg unsupported, if_neg unsupported, front_eq inside, behind_eq inside]
  have whole : tag :: first :: rest = (tag :: first :: rest.take count) ++ rest.drop count := by simp
  change slices tag (tag :: first :: rest) ((rest.take count).foldl shift 0).toNat (rest.drop count) = _
  rw [toNat_digits few, whole, slices_eq (by simp only [List.length_cons]; omega) small]

theorem next_eq (bytes : List UInt8) :
    next bytes = ((Der.next bytes).map Cut.ofElement).mapError .refused := by
  match bytes with
  | [] => rfl
  | [tag] => rfl
  | tag :: first :: rest =>
    rw [next, Der.next]
    by_cases multi : tag &&& 0x1f = 0x1f
    · rw [if_pos multi, if_pos multi]
      rfl
    rw [if_neg multi, if_neg multi]
    by_cases low : first < 0x80
    · have small : first.toNat < 128 := UInt8.lt_iff_toNat_lt.mp low
      rw [if_pos low, lengthField, if_pos low, ← slices_eq (by simp) (by omega)]
      rfl
    · rw [if_neg low]
      exact longForm_eq low

end Elements

section Runs

variable {α : Type}

def expect (tag : UInt8) (what : String) (bytes : List UInt8) : Except Stop (List UInt8 × List UInt8) := do
  let cut ← next bytes
  if cut.tag ≠ tag then .error (.refused (.unexpectedTag what tag cut.tag)) else .ok (cut.content, cut.rest)

/-- A round takes one element off the front, and there is one as long as bytes are left. -/
def each (tag : UInt8) (what : String) (interpret : List UInt8 → Except Stop α) :
    Nat → List UInt8 → Except Stop (List α)
  | _, [] => .ok []
  | 0, _ :: _ => .error .outOfRounds
  | rounds + 1, b :: bytes => do
    let (content, rest) ← expect tag what (b :: bytes)
    let first ← interpret content
    return first :: (← each tag what interpret rounds rest)

variable {tag : UInt8} {what : String} {bytes content rest : List UInt8}

theorem expect_eq (tag : UInt8) (what : String) (bytes : List UInt8) :
    expect tag what bytes = (Der.expect tag what bytes).mapError .refused := by
  rw [expect, next_eq]
  refine bind_map_mapError fun (e, rest) _ => ?_
  by_cases other : e.tag ≠ tag
  · refine (if_pos other).trans ?_
    dsimp only
    rw [if_pos other]
    rfl
  · refine (if_neg other).trans ?_
    dsimp only
    rw [if_neg other]
    rfl

/-- An element is longer than its content by its header. -/
theorem length_of_expect (h : Der.expect tag what bytes = .ok (content, rest)) :
    content.length + rest.length + 2 ≤ bytes.length := by
  obtain ⟨⟨e, behind⟩, cut, h⟩ := bind_eq_ok_iff.mp h
  obtain ⟨-, h⟩ := guard_bind_eq_ok_iff.mp h
  cases h
  obtain ⟨whole, two⟩ := Der.raw_append_of_next cut
  rw [← whole, Der.Element.raw, List.length_append, List.length_append]
  omega

theorem each_eq {rounds : Nat} (enough : bytes.length ≤ 2 * rounds) {guarded : List UInt8 → Except Stop α}
    {interpret : List UInt8 → Except SubjectError α}
    (agrees : ∀ content : List UInt8, content.length ≤ bytes.length →
      guarded content = (interpret content).mapError .refused) :
    each tag what guarded rounds bytes = (Der.each tag what interpret bytes).mapError .refused := by
  induction rounds generalizing bytes with
  | zero =>
    have none : bytes = [] := List.length_eq_zero_iff.mp (by omega)
    rw [none, Der.each_nil]
    rfl
  | succ rounds ih =>
    cases bytes with
    | nil =>
      rw [Der.each_nil]
      rfl
    | cons b bytes =>
      rw [each, Der.each_of_ne_nil (List.cons_ne_nil b bytes), expect_eq]
      refine bind_mapError fun (content, rest) cut => ?_
      have shorter := length_of_expect cut
      simp only [agrees content (by omega)]
      refine bind_mapError fun first _ => ?_
      rw [ih (by omega) fun content small => agrees content (by omega)]
      exact bind_mapError fun _ _ => rfl

end Runs

section Names

def value (oid : Oid) (cut : Cut) : Except Stop AttributeValue :=
  match Attribute.shortName? oid, TextKind.ofTag? cut.tag with
  | some _, some kind => ((kind.decode cut.content).map .text).mapError .refused
  | _, _ => .ok (.raw cut.raw)

def readAttribute (bytes : List UInt8) : Except Stop Attribute := do
  let (digits, rest) ← expect 0x06 "attribute type" bytes
  let oid ← identifier digits
  let cut ← next rest
  if !cut.rest.isEmpty then .error (.refused .trailingInAttribute)
  else return ⟨oid, ← value oid cut⟩

def readRelative (rounds : Nat) (bytes : List UInt8) : Except Stop (List Attribute) := do
  match ← each 0x30 "attribute" readAttribute rounds bytes with
  | [] => .error (.refused .emptyRelativeName)
  | attributes => return attributes

def readName (rounds : Nat) (bytes : List UInt8) : Except Stop DistinguishedName :=
  each 0x31 "relative distinguished name" (readRelative rounds) rounds bytes

theorem value_eq (oid : Oid) (found : Der.Element × List UInt8) :
    value oid (Cut.ofElement found) = (Attribute.valueOf oid found.1).mapError .refused := by
  simp only [value, Attribute.valueOf, Cut.ofElement]
  cases Attribute.shortName? oid with
  | none => rfl
  | some short => cases TextKind.ofTag? found.1.tag <;> rfl

theorem readAttribute_eq (bytes : List UInt8) :
    readAttribute bytes = (Attribute.read bytes).mapError .refused := by
  rw [readAttribute, Attribute.read, expect_eq]
  refine bind_mapError fun (digits, rest) _ => ?_
  simp only [identifier_eq]
  refine bind_mapError fun oid _ => ?_
  rw [next_eq]
  refine bind_map_mapError fun (e, rest) _ => ?_
  cases rest with
  | nil =>
    rw [value_eq]
    exact bind_mapError fun _ _ => rfl
  | cons b rest => rfl

theorem readRelative_eq {rounds : Nat} {bytes : List UInt8} (enough : bytes.length ≤ 2 * rounds) :
    readRelative rounds bytes = (DistinguishedName.readRelative bytes).mapError .refused := by
  rw [readRelative, DistinguishedName.readRelative, each_eq enough fun content _ => readAttribute_eq content]
  refine bind_mapError fun attributes _ => ?_
  cases attributes <;> rfl

theorem readName_eq {rounds : Nat} {bytes : List UInt8} (enough : bytes.length ≤ 2 * rounds) :
    readName rounds bytes = (DistinguishedName.read bytes).mapError .refused :=
  each_eq enough fun _ shorter => readRelative_eq (Nat.le_trans shorter enough)

end Names

section Certificates

def skipVersion (bytes : List UInt8) : Except Stop (List UInt8) :=
  match bytes with
  | 0xa0 :: _ => return (← next bytes).rest
  | _ => .ok bytes

def subjectContent (der : List UInt8) : Except Stop (List UInt8) := do
  let (certificate, _) ← expect 0x30 "certificate" der
  let (signed, _) ← expect 0x30 "tbsCertificate" certificate
  let rest ← skipVersion signed
  let (_, rest) ← expect 0x02 "serial number" rest
  let (_, rest) ← expect 0x30 "signature algorithm" rest
  let (_, rest) ← expect 0x30 "issuer" rest
  let (_, rest) ← expect 0x30 "validity" rest
  let (subject, _) ← expect 0x30 "subject" rest
  return subject

def subject (rounds : Nat) (der : List UInt8) : Except Stop DistinguishedName := do
  readName rounds (← subjectContent der)

theorem skipVersion_eq (bytes : List UInt8) :
    skipVersion bytes = (Certificate.skipVersion bytes).mapError .refused := by
  cases bytes with
  | nil => rfl
  | cons tag rest =>
    by_cases version : tag = 0xa0
    · subst version
      change (next (0xa0 :: rest) >>= _) = ((Der.next (0xa0 :: rest)).map _).mapError _
      rw [next_eq]
      cases Der.next (0xa0 :: rest) <;> rfl
    · simp [skipVersion, Certificate.skipVersion, version, Except.mapError]

theorem subjectContent_eq (der : List UInt8) :
    subjectContent der = (Certificate.subjectContent der).mapError .refused := by
  simp only [subjectContent, Certificate.subjectContent, expect_eq, skipVersion_eq]
  refine bind_mapError fun _ _ => bind_mapError fun _ _ => bind_mapError fun _ _ => ?_
  refine bind_mapError fun _ _ => bind_mapError fun _ _ => bind_mapError fun _ _ => ?_
  exact bind_mapError fun _ _ => bind_mapError fun _ _ => rfl

theorem subject_eq {rounds : Nat} {der : List UInt8} (enough : der.length ≤ 2 * rounds) :
    subject rounds der = (Certificate.subject der).mapError .refused := by
  rw [subject, Certificate.subject, subjectContent_eq]
  refine bind_mapError fun content found => readName_eq ?_
  have shorter := Certificate.length_le_of_carries (Certificate.subjectContent_eq_ok_iff.mp found)
  exact Nat.le_trans shorter enough

end Certificates

end Roster.Guarded

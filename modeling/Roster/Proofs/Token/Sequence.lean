import Roster.Proofs.Token.Field

/-!
# Fields in sequence

A record is any sequence of fields, and nothing in it says which. Read as the kinds of fields that were
written, it gives the values back. Without its end it lacks a part of one field, which is the one that the
reader complains of, as those in front of it are all there.
-/

namespace Roster

/-- A value as a record holds it. -/
inductive FieldValue where
  | u8 (n : UInt8)
  | u16 (n : UInt16)
  | u32 (n : UInt32)
  | bool (b : Bool)
  | bytes (bs : List UInt8)
  | text (s : String)
  | optionalText (o : Option String)
  deriving DecidableEq, Repr

/-- What a reader is asked for. A record does not say how many raw bytes there are. -/
inductive FieldKind where
  | u8
  | u16
  | u32
  | bool
  | bytes (count : Nat)
  | text
  | optionalText
  deriving DecidableEq, Repr

namespace FieldValue

@[simp] def kind : FieldValue → FieldKind
  | .u8 _ => .u8
  | .u16 _ => .u16
  | .u32 _ => .u32
  | .bool _ => .bool
  | .bytes bs => .bytes bs.length
  | .text _ => .text
  | .optionalText _ => .optionalText

/-- Only texts can be too long. -/
@[simp] def Fits : FieldValue → Prop
  | .text s => Field.Fits s
  | .optionalText o => ∀ s ∈ o, Field.Fits s
  | _ => True

/-- The bytes that stand for the value. -/
@[simp] def spelling : FieldValue → List UInt8
  | .u8 n => [n]
  | .u16 n => Field.u16 n
  | .u32 n => Field.u32 n
  | .bool b => Field.bool b
  | .bytes bs => bs
  | .text s => Field.text s
  | .optionalText o => Field.optionalText o

def write : FieldValue → Writer Unit
  | .u8 n => Writer.u8 n
  | .u16 n => Writer.u16 n
  | .u32 n => Writer.u32 n
  | .bool b => Writer.bool b
  | .bytes bs => Writer.bytes bs
  | .text s => Writer.text s
  | .optionalText o => Writer.optionalText o

end FieldValue

def FieldKind.read (field : String) : FieldKind → Reader FieldValue
  | .u8 => return .u8 (← Reader.u8 field)
  | .u16 => return .u16 (← Reader.u16 field)
  | .u32 => return .u32 (← Reader.u32 field)
  | .bool => return .bool (← Reader.bool field)
  | .bytes count => return .bytes (← Reader.bytes count field).val
  | .text => return .text (← Reader.text field)
  | .optionalText => return .optionalText (← Reader.optionalText field)

/-- Writes values one behind the other. -/
def Writer.fields (values : List FieldValue) : Writer Unit := values.forM FieldValue.write

/-- Reads fields of these names and kinds one behind the other. -/
def Reader.fields (asked : List (String × FieldKind)) : Reader (List FieldValue) :=
  asked.mapM fun (field, kind) => kind.read field

namespace Writer

theorem writes_field (v : FieldValue) : Writes v.write (fun bs => v.Fits ∧ bs = v.spelling) := by
  cases v with
  | u8 n => exact (writes_u8 n).congr fun bs => (true_and _).symm.to_iff
  | u16 n => exact (writes_u16 n).congr fun bs => (true_and _).symm.to_iff
  | u32 n => exact (writes_u32 n).congr fun bs => (true_and _).symm.to_iff
  | bool b => exact (writes_bool b).congr fun bs => (true_and _).symm.to_iff
  | bytes raw => exact (writes_bytes raw).congr fun bs => (true_and _).symm.to_iff
  | text s => exact writes_text s
  | optionalText o => exact writes_optionalText o

theorem writes_fields (values : List FieldValue) : Writes (fields values)
    (fun bs => (∀ v ∈ values, v.Fits) ∧ bs = values.flatMap FieldValue.spelling) := by
  induction values with
  | nil => exact writes_nothing.congr fun bs => by simp
  | cons v values ih =>
    refine ((writes_field v).bind ih).congr fun bs => ?_
    simp only [List.forall_mem_cons, List.flatMap_cons]
    constructor
    · rintro ⟨_, _, ⟨first, rfl⟩, ⟨later, rfl⟩, rfl⟩
      exact ⟨⟨first, later⟩, rfl⟩
    · rintro ⟨⟨first, later⟩, rfl⟩
      exact ⟨_, _, ⟨first, rfl⟩, ⟨later, rfl⟩, rfl⟩

end Writer

namespace Reader

variable {α β : Type} {field : String}

/-- Where a run of bytes in two parts is cut: inside the first part, or somewhere behind it. -/
theorem inside_or_behind {p q kept lost : List UInt8} (split : kept ++ lost = p ++ q) :
    (∃ rest, rest ≠ [] ∧ p = kept ++ rest ∧ lost = rest ++ q) ∨
      ∃ front, kept = p ++ front ∧ q = front ++ lost := by
  rcases List.append_eq_append_iff.mp split with ⟨rest, first, second⟩ | behind
  · by_cases none : rest = []
    · subst none
      rw [List.append_nil] at first
      exact Or.inr ⟨[], by rw [first, List.append_nil], second.symm⟩
    · exact Or.inl ⟨rest, none, first, second⟩
  · exact Or.inr behind

/-- Given the bytes of a value without their end, the reader complains of the field of this name, and of a
place that it has reached. -/
def Misses (field : String) (r : Reader α) (E : α → List UInt8 → Prop) : Prop :=
  ∀ a kept lost, E a (kept ++ lost) → lost ≠ [] → ∀ index offset, ∃ place c',
    r.continueFrom ⟨index, offset, kept⟩ = (.error (.malformedToken index (.truncated field place)), c') ∧
      offset ≤ place ∧ place ≤ offset + kept.length

theorem misses_bytes (n : Nat) (field : String) : Misses field (bytes n field) (fun _ bs => bs.length = n) := by
  intro a kept lost full some index offset
  have short : ¬ n ≤ kept.length := by
    have := List.length_pos_iff.mpr some
    rw [List.length_append] at full
    omega
  refine ⟨offset, ⟨index, offset, kept⟩, ?_, Nat.le_refl _, Nat.le_add_right _ _⟩
  rw [continueFrom_bytes, dif_neg short]

/-- What is left of the bytes is missed by the first of two readers, if all of them are meant for it. -/
theorem Misses.first {r : Reader α} {f : α → Reader β} {E : α → List UInt8 → Prop}
    {E' : β → List UInt8 → Prop} (hr : Misses field r E) (from' : ∀ b bs, E' b bs → ∃ a, E a bs) :
    Misses field (r >>= f) E' := by
  intro b kept lost spelled some index offset
  obtain ⟨a, spelled⟩ := from' b _ spelled
  obtain ⟨place, c', failed, above, below⟩ := hr a kept lost spelled some index offset
  refine ⟨place, c', ?_, above, below⟩
  rw [continueFrom_bind, failed]

theorem Misses.bind {r : Reader α} {f : α → Reader β} {E : α → List UInt8 → Prop}
    {E' : α → β → List UInt8 → Prop} (reads : Reads Anything r E) (hr : Misses field r E)
    (hf : ∀ a, Misses field (f a) (E' a)) :
    Misses field (r >>= f) (fun b bs => ∃ a p q, E a p ∧ E' a b q ∧ bs = p ++ q) := by
  rintro b kept lost ⟨a, p, q, hp, hq, split⟩ some index offset
  rw [continueFrom_bind]
  rcases inside_or_behind split with ⟨rest, cut, rfl, -⟩ | ⟨front, rfl, rfl⟩
  · obtain ⟨place, c', failed, bounds⟩ := hr a kept rest hp cut index offset
    exact ⟨place, c', by rw [failed], bounds⟩
  · -- the first reader has all it needs, so the second one has its turn
    have read := (reads ⟨index, offset, p ++ front⟩ a _).mpr ⟨p, front, hp, trivial, rfl, rfl⟩
    obtain ⟨place, c', failed, above, below⟩ := hf a b front lost hq some index (offset + p.length)
    rw [List.length_append]
    exact ⟨place, c', by rw [read]; exact failed, by omega, by omega⟩

theorem misses_empty {r : Reader α} {E : α → List UInt8 → Prop} (empty : ∀ a bs, E a bs → bs = []) :
    Misses field r E := by
  intro a kept lost spelled some
  exact absurd (List.append_eq_nil_iff.mp (empty a _ spelled)).2 some

theorem Misses.mono {r : Reader α} {E E' : α → List UInt8 → Prop} (h : Misses field r E)
    (fewer : ∀ a bs, E' a bs → E a bs) : Misses field r E' :=
  fun a _ _ spelled => h a _ _ (fewer a _ spelled)

theorem misses_u8 (field : String) : Misses field (u8 field) (fun n bs => bs = [n]) :=
  (misses_bytes 1 field).first fun n _ spelled => ⟨⟨[n], rfl⟩, spelled ▸ rfl⟩

theorem misses_u16 (field : String) : Misses field (u16 field) (fun n bs => bs = Field.u16 n) :=
  (misses_bytes 2 field).first fun n _ spelled =>
    ⟨⟨Field.u16 n, BigEndian.length_encode 2 _⟩, spelled ▸ BigEndian.length_encode 2 _⟩

theorem misses_u32 (field : String) : Misses field (u32 field) (fun n bs => bs = Field.u32 n) :=
  (misses_bytes 4 field).first fun n _ spelled =>
    ⟨⟨Field.u32 n, BigEndian.length_encode 4 _⟩, spelled ▸ BigEndian.length_encode 4 _⟩

theorem misses_bool (field : String) : Misses field (bool field) (fun b bs => bs = Field.bool b) :=
  (misses_u8 field).first fun b _ spelled => ⟨if b then 1 else 0, spelled⟩

theorem misses_text (field : String) :
    Misses field (text field) (fun s bs => Field.Fits s ∧ bs = Field.text s) := by
  have sized : ∀ (n : UInt16) (decoded : _ → Reader String), Misses field (bytes n.toNat field >>= decoded)
      (fun s bs => Utf8.size s = n.toNat ∧ bs = Utf8.encode s) := by
    intro n decoded
    refine (misses_bytes n.toNat field).first ?_
    rintro s _ ⟨size, rfl⟩
    have length := (Utf8.length_encode s).trans size
    exact ⟨⟨_, length⟩, length⟩
  refine (Misses.bind (reads_u16 field) (misses_u16 field) fun n => sized n _).mono ?_
  rintro s _ ⟨fits, rfl⟩
  refine ⟨UInt16.ofNat (Utf8.size s), _, _, rfl, ⟨fits.toNat_size.symm, rfl⟩, ?_⟩
  rw [Field.u16, fits.toNat_size, Field.text]

theorem misses_optionalText (field : String) : Misses field (optionalText field)
    (fun o bs => (∀ s ∈ o, Field.Fits s) ∧ bs = Field.optionalText o) := by
  have step : ∀ b : Bool, Misses field (if b then (do return some (← text field)) else pure none)
      (fun o bs => o.isSome = b ∧ (∀ s ∈ o, Field.Fits s) ∧ bs = o.elim [] Field.text) := by
    intro b
    cases b with
    | false =>
      refine misses_empty fun o bs spelled => ?_
      cases o with
      | none => exact spelled.2.2
      | some s => cases spelled.1
    | true =>
      refine (misses_text field).first fun o bs spelled => ?_
      cases o with
      | none => cases spelled.1
      | some s => exact ⟨s, spelled.2.1 s rfl, spelled.2.2⟩
  refine (Misses.bind (reads_bool field) (misses_bool field) step).mono ?_
  rintro o _ ⟨fits, rfl⟩
  refine ⟨o.isSome, _, _, rfl, ⟨rfl, fits, rfl⟩, ?_⟩
  cases o with
  | none => rfl
  | some s => rfl

/-- The reader takes the bytes of a value off the front and nothing else, and complains of the field of this
name if their end is not there. -/
structure Covers (field : String) (r : Reader α) (E : α → List UInt8 → Prop) : Prop where
  reads : Reads Anything r E
  misses : Misses field r E

theorem Covers.map {r : Reader α} {E : α → List UInt8 → Prop} {E' : β → List UInt8 → Prop}
    (h : Covers field r E) (g : α → β) (same : ∀ b bs, (∃ a, b = g a ∧ E a bs) ↔ E' b bs) :
    Covers field (r >>= fun a => pure (g a)) E' where
  reads := (h.reads.bind fun a => reads_pure (g a)).congr fun b bs => by simp [← same, and_comm]
  misses := h.misses.first fun b bs spelled => ((same b bs).mpr spelled).imp fun _ => And.right

theorem covers_field (field : String) (k : FieldKind) :
    Covers field (k.read field) (fun v bs => v.kind = k ∧ v.Fits ∧ bs = v.spelling) := by
  cases k with
  | u8 => exact Covers.map ⟨reads_u8 field, misses_u8 field⟩ FieldValue.u8 fun v bs => by cases v <;> simp
  | u16 => exact Covers.map ⟨reads_u16 field, misses_u16 field⟩ FieldValue.u16 fun v bs => by cases v <;> simp
  | u32 => exact Covers.map ⟨reads_u32 field, misses_u32 field⟩ FieldValue.u32 fun v bs => by cases v <;> simp
  | bool => exact Covers.map ⟨reads_bool field, misses_bool field⟩ FieldValue.bool fun v bs => by cases v <;> simp
  | text => exact Covers.map ⟨reads_text field, misses_text field⟩ FieldValue.text fun v bs => by cases v <;> simp
  | optionalText =>
    exact Covers.map ⟨reads_optionalText field, misses_optionalText field⟩ FieldValue.optionalText
      fun v bs => by cases v <;> simp
  | bytes count =>
    have raw : Covers field (bytes count field) (fun raw bs => bs = raw.val) :=
      ⟨reads_bytes count field, (misses_bytes count field).mono fun raw bs same => same ▸ raw.property⟩
    exact raw.map (fun raw => FieldValue.bytes raw.val) fun v bs => by cases v <;> simp

theorem reads_fields (asked : List (String × FieldKind)) : Reads Anything (fields asked) (fun values bs =>
    values.map FieldValue.kind = asked.map (·.2) ∧ (∀ v ∈ values, v.Fits) ∧
      bs = values.flatMap FieldValue.spelling) := by
  induction asked with
  | nil => exact (reads_pure []).congr fun values bs => by cases values <;> simp
  | cons first asked ih =>
    rw [fields, List.mapM_cons]
    have later : ∀ v : FieldValue, Reads Anything (fields asked >>= fun values => pure (v :: values)) _ :=
      fun v => ih.bind fun values => reads_pure (v :: values)
    refine ((covers_field first.1 first.2).reads.bind later).congr fun values bs => ?_
    constructor
    · rintro ⟨v, _, _, ⟨kind, fits, rfl⟩, ⟨values, _, _, ⟨kinds, all, rfl⟩, ⟨rfl, rfl⟩, rfl⟩, rfl⟩
      refine ⟨?_, List.forall_mem_cons.mpr ⟨fits, all⟩, ?_⟩
      · rw [List.map_cons, kind, kinds, List.map_cons]
      · rw [List.append_nil, List.flatMap_cons]
    · rintro ⟨kinds, all, rfl⟩
      cases values with
      | nil => cases kinds
      | cons v values =>
        obtain ⟨kind, kinds⟩ := List.cons.inj kinds
        obtain ⟨fits, all⟩ := List.forall_mem_cons.mp all
        refine ⟨v, _, _, ⟨kind, fits, rfl⟩, ⟨values, _, [], ⟨kinds, all, rfl⟩, ⟨rfl, rfl⟩, rfl⟩, ?_⟩
        rw [List.append_nil, List.flatMap_cons]

/-- A field that cannot be read behind those in front of it ends the run. -/
theorem fields_stops {front behind : List (String × FieldKind)} {values : List FieldValue} {k : FieldKind}
    {c middle c' : Cursor} {e : StreamError} (read : (fields front).continueFrom c = (.ok values, middle))
    (failed : (k.read field).continueFrom middle = (.error e, c')) :
    (fields (front ++ (field, k) :: behind)).continueFrom c = (.error e, c') := by
  rw [fields] at read
  rw [fields, List.mapM_append, continueFrom_bind, read]
  simp only
  rw [List.mapM_cons, continueFrom_bind, continueFrom_bind, failed]

end Reader

/-- Values with the names that they are read by. -/
abbrev FieldSequence := List (String × FieldValue)

namespace FieldSequence

def values (fs : FieldSequence) : List FieldValue := fs.map (·.2)

/-- What is asked to read the values back. -/
def asked (fs : FieldSequence) : List (String × FieldKind) := fs.map fun f => (f.1, f.2.kind)

def spelling (fs : FieldSequence) : List UInt8 := fs.values.flatMap FieldValue.spelling

variable {fs : FieldSequence} {kept lost : List UInt8}

theorem record_fields (fits : ∀ f ∈ fs, f.2.Fits) : (Writer.fields fs.values).record = .ok fs.spelling :=
  (Writer.record_eq_ok_iff (Writer.writes_fields fs.values)).mpr ⟨List.forall_mem_map.mpr fits, rfl⟩

theorem read_fields (fits : ∀ f ∈ fs, f.2.Fits) (index offset : Nat) (rest : List UInt8) :
    (Reader.fields fs.asked).continueFrom ⟨index, offset, fs.spelling ++ rest⟩ =
      (.ok fs.values, ⟨index, offset + fs.spelling.length, rest⟩) := by
  have kinds : fs.values.map FieldValue.kind = fs.asked.map (·.2) := by
    rw [values, asked, List.map_map, List.map_map]
    rfl
  exact (Reader.reads_fields fs.asked _ _ _).mpr
    ⟨fs.spelling, rest, ⟨kinds, List.forall_mem_map.mpr fits, rfl⟩, trivial, rfl, rfl⟩

/-- Where the fields end of which these bytes are kept: inside a field, of which a part is missing. -/
structure Cut (fs : FieldSequence) (kept : List UInt8) where
  front : FieldSequence
  name : String
  value : FieldValue
  behind : FieldSequence
  part : List UInt8
  missing : List UInt8
  fields : fs = front ++ (name, value) :: behind
  kept_eq : kept = front.spelling ++ part
  spelled : value.spelling = part ++ missing
  lost : missing ≠ []

/-- A record without its end has lost a part of one field, and all of those behind it. -/
theorem nonempty_cut (split : fs.spelling = kept ++ lost) (some : lost ≠ []) : Nonempty (Cut fs kept) := by
  induction fs generalizing kept with
  | nil => exact absurd (List.append_eq_nil_iff.mp split.symm).2 some
  | cons f fs ih =>
    have split : kept ++ lost = f.2.spelling ++ spelling fs := split.symm
    rcases Reader.inside_or_behind split with ⟨missing, cut, own, -⟩ | ⟨more, rfl, later⟩
    · exact ⟨⟨[], f.1, f.2, fs, kept, missing, rfl, rfl, own, cut⟩⟩
    · obtain ⟨front, name, v, behind, part, missing, rfl, rfl, own, cut⟩ := ih later
      exact ⟨⟨f :: front, name, v, behind, part, missing, rfl, (List.append_assoc _ _ _).symm, own, cut⟩⟩

/-- The fields in front of the cut are read, and the one that it is in is complained of. -/
theorem Cut.read (c : Cut fs kept) (fits : ∀ f ∈ fs, f.2.Fits) (index : Nat) : ∃ (place : Nat) (last : Cursor),
    (Reader.fields c.front.asked).continueFrom (.start index kept) =
      (.ok c.front.values, ⟨index, c.front.spelling.length, c.part⟩) ∧
    (c.value.kind.read c.name).continueFrom ⟨index, c.front.spelling.length, c.part⟩ =
      (.error (.malformedToken index (.truncated c.name place)), last) ∧
    c.front.spelling.length ≤ place ∧ place ≤ kept.length ∧
    (Reader.fields fs.asked).token index kept = .error (.malformedToken index (.truncated c.name place)) := by
  obtain ⟨front, name, v, behind, part, missing, rfl, rfl, own, cut⟩ := c
  obtain ⟨before, fits⟩ := List.forall_mem_append.mp fits
  have own' : v.kind = v.kind ∧ v.Fits ∧ part ++ missing = v.spelling :=
    ⟨rfl, (List.forall_mem_cons.mp fits).1, own.symm⟩
  have read := read_fields before index 0 part
  rw [Nat.zero_add] at read
  obtain ⟨place, last, failed, above, below⟩ :=
    (Reader.covers_field name v.kind).misses v part missing own' cut index front.spelling.length
  have whole : asked (front ++ (name, v) :: behind) = front.asked ++ (name, v.kind) :: asked behind := by
    rw [asked, List.map_append, List.map_cons]
    rfl
  refine ⟨place, last, read, failed, above, ?_, ?_⟩
  · rwa [List.length_append]
  · rw [whole, Reader.token, Cursor.start, Reader.fields_stops read failed]

/-- Reads the fields and makes sure that nothing is left. -/
def readWhole (fs : FieldSequence) : Reader (List FieldValue) := do
  let values ← Reader.fields fs.asked
  Reader.finish
  return values

theorem readWhole_spelling (fits : ∀ f ∈ fs, f.2.Fits) (index : Nat) :
    fs.readWhole.token index fs.spelling = .ok fs.values := by
  have read := read_fields fits index 0 []
  rw [List.append_nil] at read
  rw [readWhole, Reader.token, Cursor.start, Reader.continueFrom_bind, read]
  rfl

theorem readWhole_excess (fits : ∀ f ∈ fs, f.2.Fits) {extra : List UInt8} (some : extra ≠ []) (index : Nat) :
    fs.readWhole.token index (fs.spelling ++ extra) =
      .error (.malformedToken index (.trailing extra.length)) := by
  rw [readWhole, Reader.token, Cursor.start, Reader.continueFrom_bind, read_fields fits]
  cases extra with
  | nil => exact absurd rfl some
  | cons b extra => rfl

/-- Fields of any kinds that are written one behind the other, none of their texts too long, are read back as
the kinds that they have, and then nothing is left. Of a record without its end, the fields that are all there
are read, and the one of which a part is lost is complained of by name. With more bytes at its end, all fields
are read still, and these bytes are complained of at the end. -/
theorem record_is_read_back (fits : ∀ f ∈ fs, f.2.Fits) (index : Nat) :
    (Writer.fields fs.values).record = .ok fs.spelling ∧ fs.readWhole.token index fs.spelling = .ok fs.values ∧
    (∀ kept lost, fs.spelling = kept ++ lost → lost ≠ [] →
      ∃ (c : Cut fs kept) (place : Nat) (last : Cursor),
        (Reader.fields c.front.asked).continueFrom (.start index kept) =
          (.ok c.front.values, ⟨index, c.front.spelling.length, c.part⟩) ∧
        (c.value.kind.read c.name).continueFrom ⟨index, c.front.spelling.length, c.part⟩ =
          (.error (.malformedToken index (.truncated c.name place)), last) ∧
        c.front.spelling.length ≤ place ∧ place ≤ kept.length ∧
        (Reader.fields fs.asked).token index kept =
          .error (.malformedToken index (.truncated c.name place))) ∧
    ∀ extra, extra ≠ [] →
      (Reader.fields fs.asked).continueFrom (.start index (fs.spelling ++ extra)) =
        (.ok fs.values, ⟨index, fs.spelling.length, extra⟩) ∧
      fs.readWhole.token index (fs.spelling ++ extra) =
        .error (.malformedToken index (.trailing extra.length)) := by
  refine ⟨record_fields fits, readWhole_spelling fits index, ?_, ?_⟩
  · intro kept lost split some
    obtain ⟨c⟩ := nonempty_cut split some
    exact ⟨c, c.read fits index⟩
  · intro extra some
    have read := read_fields fits index 0 extra
    rw [Nat.zero_add] at read
    exact ⟨read, readWhole_excess fits some index⟩

/-- Some fields, one of them without bytes and one with a character of two. -/
def mixed : FieldSequence :=
  [("version", .u16 3), ("flag", .bool true), ("padding", .bytes []), ("name", .text "é"),
    ("software", .optionalText (some "7.5"))]

theorem mixed_is_read_back :
    (Writer.fields mixed.values).record = .ok [0, 3, 1, 0, 2, 195, 169, 1, 0, 3, 55, 46, 53] ∧
    mixed.readWhole.token 4 [0, 3, 1, 0, 2, 195, 169, 1, 0, 3, 55, 46, 53] =
      .ok [.u16 3, .bool true, .bytes [], .text "é", .optionalText (some "7.5")] ∧
    (∃ name place, (Reader.fields mixed.asked).token 4 [0, 3, 1, 0, 2, 195] =
      .error (.malformedToken 4 (.truncated name place))) ∧
    mixed.readWhole.token 4 [0, 3, 1, 0, 2, 195, 169, 1, 0, 3, 55, 46, 53, 9, 9] =
      .error (.malformedToken 4 (.trailing 2)) := by
  have spelled : mixed.spelling = [0, 3, 1, 0, 2, 195, 169, 1, 0, 3, 55, 46, 53] := by decide +kernel
  have fits : ∀ f ∈ mixed, f.2.Fits := by
    simp [mixed, Field.Fits]
    decide
  obtain ⟨written, read, cut, excess⟩ := record_is_read_back fits 4
  rw [spelled] at written read cut excess
  refine ⟨written, read, ?_, (excess [9, 9] (by decide)).2⟩
  obtain ⟨c, place, last, -, -, -, -, failed⟩ :=
    cut [0, 3, 1, 0, 2, 195] [169, 1, 0, 3, 55, 46, 53] rfl (by decide)
  exact ⟨c.name, place, failed⟩

end FieldSequence

end Roster

import Roster.Group.Codec
import Roster.Proofs.Token.Field

/-!
# Records and headers as bytes

A node's record and a group's header are the bytes of their fields in turn. Writing fails exactly
on texts that are too long; reading succeeds exactly on what writing makes of a node that the
format can express.
-/

namespace Roster

namespace NodeType

theorem ofCode_eq_ok_iff {format : FormatVersion} {code : UInt8} {t : NodeType} :
    ofCode format code = .ok t ↔ t.oldestFormat ≤ format ∧ code = t.code := by
  rw [ofCode]
  constructor
  · intro h
    split at h
    · cases h
    · rename_i s hs
      have hcode : s.code = code := by simpa using List.find?_some hs
      split at h
      · rename_i hle
        cases h
        exact ⟨hle, hcode.symm⟩
      · cases h
  · rintro ⟨hle, rfl⟩
    rw [ofCode?_code]
    exact if_pos hle

end NodeType

theorem FormatVersion.ofCode_eq_ok_iff {n : UInt16} {v : FormatVersion} :
    FormatVersion.ofCode n = .ok v ↔ n = v.code := by
  rw [FormatVersion.ofCode]
  constructor
  · intro h
    split at h
    · rename_i w hw
      cases h
      exact (FormatVersion.code_of_ofCode? hw).symm
    · cases h
  · rintro rfl
    rw [FormatVersion.ofCode?_code]

namespace Node

def bytes (format : FormatVersion) (n : Node) : List UInt8 :=
  Field.text n.name ++ (Field.u32 n.id ++ ([n.kind.code] ++ (Field.text n.host ++
    (Field.u16 n.port ++ (Field.bool n.removed ++ (Field.u32 n.change ++
      if format.carriesSoftware then Field.optionalText n.software else []))))))

/-- The texts that a format writes are short enough. -/
structure Fits (n : Node) (format : FormatVersion) : Prop where
  name : Field.Fits n.name
  host : Field.Fits n.host
  software : format.carriesSoftware = true → ∀ s ∈ n.software, Field.Fits s

/-- The format has a code for the node's type and loses nothing of the node. -/
structure Expressible (n : Node) (format : FormatVersion) : Prop where
  kind : n.kind.oldestFormat ≤ format
  software : format.carriesSoftware = false → n.software = none

theorem writes (n : Node) (format : FormatVersion) :
    Writer.Writes (n.write format) (fun bs => n.Fits format ∧ bs = n.bytes format) := by
  have last : Writer.Writes (if format.carriesSoftware then Writer.optionalText n.software
      else pure ()) (fun bs => (format.carriesSoftware = true → ∀ s ∈ n.software, Field.Fits s) ∧
        bs = if format.carriesSoftware then Field.optionalText n.software else []) := by
    by_cases h : format.carriesSoftware
    · simpa [h] using Writer.writes_optionalText n.software
    · simpa [h] using Writer.writes_nothing
  rw [write]
  apply ((Writer.writes_text _).bind ((Writer.writes_u32 _).bind ((Writer.writes_u8 _).bind
    ((Writer.writes_text _).bind ((Writer.writes_u16 _).bind ((Writer.writes_bool _).bind
      ((Writer.writes_u32 _).bind last))))))).congr
  intro bs
  simp only [exists_and_left, exists_eq_left, and_assoc, bytes]
  exact ⟨fun ⟨name, host, software, spelled⟩ => ⟨⟨name, host, software⟩, spelled⟩,
    fun ⟨fits, spelled⟩ => ⟨fits.name, fits.host, fits.software, spelled⟩⟩

/-- The last field, and the end of the record behind it. -/
theorem reads_software (format : FormatVersion) (make : Option String → Node) :
    Reader.Reads Reader.Nothing
      (if format.carriesSoftware = true then
        Reader.optionalText "software version" >>= fun o => Reader.finish >>= fun _ => pure (make o)
      else pure none >>= fun o => Reader.finish >>= fun _ => pure (make o))
      (fun n bs => ∃ o, n = make o ∧ (format.carriesSoftware = true → ∀ s ∈ o, Field.Fits s) ∧
        (format.carriesSoftware = false → o = none) ∧
        bs = if format.carriesSoftware then Field.optionalText o else []) := by
  by_cases h : format.carriesSoftware
  · rw [if_pos h]
    apply ((Reader.reads_optionalText _).bind fun o => Reader.reads_finish (make o)).congr
    intro n bs
    simp [h, and_left_comm]
  · rw [if_neg h]
    apply ((Reader.reads_pure none).bind fun o => Reader.reads_finish (make o)).congr
    intro n bs
    simp [h]

theorem reads (format : FormatVersion) :
    Reader.Reads Reader.Nothing (read format)
      (fun n bs => n.Expressible format ∧ n.Fits format ∧ bs = n.bytes format) := by
  rw [read]
  apply ((Reader.reads_text _).bind fun name => (Reader.reads_u32 _).bind fun id =>
    (Reader.reads_u8 _).bind fun code => (Reader.reads_ofExcept _).bind fun kind =>
    (Reader.reads_text _).bind fun host => (Reader.reads_u16 _).bind fun port =>
    (Reader.reads_bool _).bind fun removed => (Reader.reads_u32 _).bind fun change =>
    reads_software format fun software =>
      ⟨name, id, kind, host, port, software, removed, change⟩).congr
  intro n bs
  obtain ⟨name, id, kind, host, port, software, removed, change⟩ := n
  simp only [↓existsAndEq, and_true, true_and, exists_and_left, NodeType.ofCode_eq_ok_iff,
    Node.mk.injEq, List.nil_append, List.cons_append, bytes]
  constructor
  · rintro ⟨hname, ⟨hkind, hhost, hfits, hnone⟩, rfl⟩
    exact ⟨⟨hkind, hnone⟩, ⟨hname, hhost, hfits⟩, rfl⟩
  · rintro ⟨⟨hkind, hnone⟩, ⟨hname, hhost, hfits⟩, rfl⟩
    exact ⟨hname, ⟨hkind, hhost, hfits, hnone⟩, rfl⟩

theorem record_eq_ok_iff {n : Node} {format : FormatVersion} {bs : List UInt8} :
    (n.write format).record = .ok bs ↔ n.Fits format ∧ bs = n.bytes format :=
  Writer.record_eq_ok_iff (n.writes format)

theorem token_eq_ok_iff {format : FormatVersion} {index : Nat} {bs : List UInt8} {n : Node} :
    (read format).token index bs = .ok n ↔
      n.Expressible format ∧ n.Fits format ∧ bs = n.bytes format :=
  Reader.whole_token_eq_ok_iff (reads format)

theorem bytes_ne_nil (n : Node) (format : FormatVersion) : n.bytes format ≠ [] := by
  simp [bytes]

end Node

namespace Header

def bytes (h : Header) : List UInt8 :=
  Field.u16 h.format.code ++ (Field.text h.name ++ (h.uuid.bytes ++ (Field.u32 h.change ++
    (Field.u32 h.sequence ++ Field.u32 h.count))))

theorem writes (h : Header) :
    Writer.Writes h.write (fun bs => Field.Fits h.name ∧ bs = h.bytes) := by
  rw [write]
  apply ((Writer.writes_u16 _).bind ((Writer.writes_text _).bind ((Writer.writes_bytes _).bind
    ((Writer.writes_u32 _).bind ((Writer.writes_u32 _).bind (Writer.writes_u32 _)))))).congr
  intro bs
  simp only [exists_and_left, exists_eq_left, and_assoc, bytes]

theorem reads_format :
    Reader.Reads Reader.Anything readFormat (fun v bs => bs = Field.u16 v.code) := by
  rw [readFormat]
  apply ((Reader.reads_u16 _).bind fun code => Reader.reads_ofExcept _).congr
  intro v bs
  simp [FormatVersion.ofCode_eq_ok_iff]

theorem reads :
    Reader.Reads Reader.Nothing read (fun h bs => Field.Fits h.name ∧ bs = h.bytes) := by
  rw [read]
  apply (reads_format.bind fun format => (Reader.reads_text _).bind fun name =>
    (Reader.reads_bytes 16 _).bind fun uuid => (Reader.reads_u32 _).bind fun change =>
    (Reader.reads_u32 _).bind fun sequence => (Reader.reads_u32 _).bind fun count =>
    Reader.reads_finish (⟨format, name, ⟨uuid.val, uuid.property⟩, change, sequence, count⟩ : Header)).congr
  intro h bs
  obtain ⟨format, name, ⟨uuid, length⟩, change, sequence, count⟩ := h
  simp [bytes, length]

theorem record_eq_ok_iff {h : Header} {bs : List UInt8} :
    h.write.record = .ok bs ↔ Field.Fits h.name ∧ bs = h.bytes :=
  Writer.record_eq_ok_iff h.writes

theorem token_eq_ok_iff {index : Nat} {bs : List UInt8} {h : Header} :
    read.token index bs = .ok h ↔ Field.Fits h.name ∧ bs = h.bytes :=
  Reader.whole_token_eq_ok_iff reads

/-- The format can be read before anything else of the header. -/
theorem format_token (h : Header) (index : Nat) : readFormat.token index h.bytes = .ok h.format :=
  (Reader.token_eq_ok_iff reads_format).mpr ⟨_, _, rfl, trivial, rfl⟩

theorem bytes_ne_nil (h : Header) : h.bytes ≠ [] := by
  simp [bytes, Field.u16, BigEndian.encode]

end Header

end Roster

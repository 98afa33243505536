import Mathlib.Data.List.Forall2
import Roster.Proofs.Group.Reachable

/-!
# Reading back what was written

Every accepted stream is the stream of the group it is read as, and every stream that a group is
written as, at whatever format, is read as that group declared at the format.
-/

namespace Roster

namespace Group

/-- An accepted stream is the one spelling of its group, and its first token names the format. -/
theorem accepted_stream_is_canonical {stream : String} {g : Group} (h : ofStream stream = .ok g) :
    g.stream = .ok stream ∧ streamFormat stream = .ok g.format ∧
      (∀ other, TokenStream.firstToken other = TokenStream.firstToken stream →
        streamFormat other = .ok g.format) ∧
      ∀ other, ofStream other = .ok g → other = stream := by
  obtain ⟨-, hstream⟩ := ofStream_eq_ok_iff.mp h
  refine ⟨hstream, streamFormat_eq hstream rfl, fun other same => streamFormat_eq hstream same, ?_⟩
  intro other hother
  obtain ⟨-, hother⟩ := ofStream_eq_ok_iff.mp hother
  rw [hstream] at hother
  exact (Except.ok.inj hother).symm

/-- A group named "orders" at the second format, with a monitor whose software version is "é". -/
def sample : Group :=
  ⟨"orders", Uuid.zero, .v2, 1, 1,
    Records.empty.insert ⟨"n1", 1, .monitor, "db", 7, some "é", false, 1⟩⟩

def sampleStream : String :=
  "000200066f726465727300000000000000000000000000000000000000010000000100000001|" ++
    "00026e3100000001010002646200070000000001010002c3a9"

theorem read_sample : ofStream sampleStream = .ok sample := by decide +kernel

theorem accepted_sample_is_canonical : ofStream sampleStream = .ok sample ∧
    sample.stream = .ok sampleStream ∧ streamFormat sampleStream = .ok .v2 := by
  obtain ⟨written, format, -⟩ := accepted_stream_is_canonical read_sample
  exact ⟨read_sample, written, format⟩

theorem mapM_write_restrict (ns : List Node) (format : FormatVersion) :
    (ns.map (fun n => n.restrict format)).mapM (fun n => (n.write format).record) =
      ns.mapM (fun n => (n.write format).record) := by
  rw [List.mapM_map]
  congr
  funext n
  exact congrArg Writer.record (Node.write_restrict n format)

/-- Writing at a format is writing the group that is declared at it. -/
theorem streamAt_eq_of_convert {g g' : Group} {format : FormatVersion}
    (h : g.convert format = .ok g') : g.streamAt format = g'.stream := by
  obtain ⟨carries, rfl⟩ := convert_eq_ok_iff.mp h
  have carries' : Carries { g with format := format, records := g.records.restrict format } format := by
    refine carries.imp_left fun plain m hm => ?_
    obtain ⟨n, hn, rfl⟩ := List.mem_map.mp hm
    rw [Node.restrict_kind]
    exact plain n hn
  have count : (g.records.restrict format).size = g.size := List.length_map _
  have records := mapM_write_restrict g.nodes format
  simp only [Group.stream, streamAt, tokens]
  rw [checkFormat_eq_ok_iff.mpr carries, checkFormat_eq_ok_iff.mpr carries']
  simp only [Group.header, size, count]
  rw [← records]
  rfl

theorem WellFormed.convert_self {g : Group} (wf : g.WellFormed) : g.convert g.format = .ok g := by
  refine convert_eq_ok_iff.mpr ⟨wf.carries, ?_⟩
  have same : g.records.restrict g.format = g.records := by
    apply Records.ext_toList
    refine (List.map_congr_left fun n hn => ?_).trans (List.map_id _)
    exact (wf.expressible n hn).restrict_eq
  rw [same]

/-- What a stream written at a format holds: the records of the converted group, each readable by
itself, in ascending order. -/
theorem streamAt_decode {g g' : Group} {format : FormatVersion} {stream : String}
    (wf : g'.WellFormed) (converted : g.convert format = .ok g')
    (h : g.streamAt format = .ok stream) : ∃ header records,
      TokenStream.decode stream = .ok (header :: records) ∧ records.length = g.size ∧
      List.Forall₂ (fun token n => ∀ index, (Node.read format).token index token = .ok n)
        records g'.nodes := by
  rw [streamAt_eq_of_convert converted] at h
  obtain ⟨carries, rfl⟩ := convert_eq_ok_iff.mp converted
  obtain ⟨writable, hdecode⟩ := streamAt_eq_ok_iff.mp h
  refine ⟨_, _, hdecode, ?_, ?_⟩
  · simp [nodes, size, Records.size, Records.restrict, Records.map]
  · refine List.forall₂_map_left_iff.mpr (List.forall₂_same.mpr fun n hn index => ?_)
    exact Node.token_eq_ok_iff.mpr ⟨wf.expressible n hn, writable.records n hn, rfl⟩

/-- Writing at a format fails only for a secondary record that the format cannot name, for a text
too long for its length, or for too many records; and what is written reads back as the group
declared at that format. -/
theorem reachable_streamAt_reads_back {g : Group} (reachable : g.Reachable) (format : FormatVersion) :
    ((∃ stream, g.streamAt format = .ok stream) ↔
      ((∀ n ∈ g.nodes, n.kind ≠ .secondary) ∨ format = .v3) ∧ g.size < 2 ^ 32 ∧
      Utf8.size g.name ≤ 65535 ∧ ∀ n ∈ g.nodes, Utf8.size n.name ≤ 65535 ∧
        Utf8.size n.host ≤ 65535 ∧
        (.v2 ≤ format → ∀ software ∈ n.software, Utf8.size software ≤ 65535)) ∧
    ∀ stream, g.streamAt format = .ok stream → ∃ g' header records,
      g.convert format = .ok g' ∧ ofStreamAt stream format = .ok g' ∧
      (format = g.format → g' = g) ∧
      TokenStream.decode stream = .ok (header :: records) ∧ records.length = g.size ∧
      List.Forall₂ (fun token n => ∀ index, (Node.read format).token index token = .ok n)
        records g'.nodes ∧
      g'.nodes.Pairwise (fun m n => Utf8.encode m.name < Utf8.encode n.name) := by
  have wf := reachable.wellFormed
  constructor
  · rw [exists_streamAt_iff]
    constructor
    · intro writable
      refine ⟨writable.carries, writable.count, writable.name, fun n hn => ?_⟩
      have fits := writable.records n hn
      exact ⟨fits.name, fits.host, fun hv => fits.software (decide_eq_true hv)⟩
    · rintro ⟨carries, count, name, records⟩
      refine ⟨carries, count, name, fun n hn => ?_⟩
      obtain ⟨hname, hhost, hsoftware⟩ := records n hn
      exact ⟨hname, hhost, fun hs => hsoftware (of_decide_eq_true hs)⟩
  · intro stream h
    obtain ⟨writable, -⟩ := streamAt_eq_ok_iff.mp h
    have converted := convert_eq_ok_iff.mpr ⟨writable.carries, rfl⟩
    have wf' := wf.convert converted
    obtain ⟨header, records, hdecode, hlength, hrecords⟩ := streamAt_decode wf' converted h
    refine ⟨_, header, records, converted, ?_, ?_, hdecode, hlength, hrecords, Records.ascending _⟩
    · rw [streamAt_eq_of_convert converted] at h
      rw [ofStreamAt, ofStream_eq_ok_iff.mpr ⟨wf', h⟩]
      exact if_pos rfl
    · rintro rfl
      rw [wf.convert_self] at converted
      exact (Except.ok.inj converted).symm

/-- The sample with an electable node added before its monitor. -/
def grown : Group :=
  { sample with
    change := 2, sequence := 2,
    records := sample.records.insert ⟨"n0", 2, .electable, "h", 9, some "7.5", false, 2⟩ }

theorem reachable_grown : grown.Reachable :=
  .step (.read read_sample)
    (.add (.joining "n0" .electable "h" 9 (some "7.5")) (by decide +kernel))

theorem grown_reads_back : grown.Reachable ∧ ∃ stream g', grown.streamAt .v1 = .ok stream ∧
    grown.convert .v1 = .ok g' ∧ ofStreamAt stream .v1 = .ok g' := by
  obtain ⟨success, back⟩ := reachable_streamAt_reads_back reachable_grown .v1
  obtain ⟨stream, written⟩ := success.mpr (by decide +kernel)
  obtain ⟨g', _, _, converted, read, -⟩ := back stream written
  exact ⟨reachable_grown, stream, g', written, converted, read⟩

end Group

end Roster

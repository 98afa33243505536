import Roster.Proofs.Admission.Request

/-!
# Requests and their lines

A request that is written is read as it was, whatever is in its names, and a line that is read, however
it is spelled, can be written anew. What keeps a join from being written is a type that the format does
not have or a text that is too long.
-/

namespace Roster

theorem FormatVersion.lt_v3_iff {format : FormatVersion} : format < .v3 ↔ format ≠ .v3 := by
  cases format <;> decide

namespace Node

variable {n : Node} {format : FormatVersion}

theorem restrict_eq_ite (n : Node) (format : FormatVersion) :
    n.restrict format = if format = .v1 then { n with software := none } else n := by
  cases format <;> rfl

theorem not_fits_iff : ¬ n.Fits format ↔ 65535 < Utf8.size n.name ∨ 65535 < Utf8.size n.host ∨
    .v2 ≤ format ∧ ∃ software ∈ n.software, 65535 < Utf8.size software := by
  have short : ∀ {s : String}, ¬ 65535 < Utf8.size s ↔ Field.Fits s := Nat.not_lt
  constructor
  · intro unfit
    by_contra none
    rw [not_or, not_or] at none
    obtain ⟨name, host, software⟩ := none
    refine unfit ⟨short.mp name, short.mp host, fun carries s known => ?_⟩
    exact short.mp fun long => software ⟨of_decide_eq_true carries, s, known, long⟩
  · rintro (long | long | ⟨newer, s, known, long⟩) fits
    · exact short.mpr fits.name long
    · exact short.mpr fits.host long
    · exact short.mpr (fits.software (decide_eq_true newer) s known) long

end Node

namespace Request

variable {stream : UInt32} {format : FormatVersion} {n : Node}

theorem exists_line_iff :
    (∃ written, (join stream format n).line = .ok written) ↔ n.kind.oldestFormat ≤ format ∧ n.Fits format := by
  constructor
  · rintro ⟨written, done⟩
    obtain ⟨token, announced, -⟩ := line_eq_ok_iff.mp done
    obtain ⟨kind, fits, -⟩ := Node.toToken_eq_ok_iff.mp announced
    exact ⟨kind, fits⟩
  · rintro ⟨kind, fits⟩
    exact ⟨_, line_eq_ok_iff.mpr ⟨_, Node.toToken_eq_ok_iff.mpr ⟨kind, fits, rfl⟩, rfl⟩⟩

/-- A request that some line spells has a line of its own, which is read as that request again. -/
theorem line_of_parse {spelling : String} {request : Request} (read : parse spelling = .ok request) :
    ∃ written, request.line = .ok written ∧ parse written = .ok request := by
  have spelled := parse_eq_ok_iff.mp read
  generalize words spelling = given at spelled
  cases spelled with
  | @join _ _ _ stream format n _ _ announced =>
    obtain ⟨expressible, token⟩ := Node.ofToken_eq_ok_iff.mp announced
    have done : (join stream format n).line = .ok _ := line_eq_ok_iff.mpr ⟨_, token, rfl⟩
    refine ⟨_, done, ?_⟩
    rw [parse_line done, expressible.restrict_eq]
  | status more => exact ⟨"STATUS", rfl, by decide⟩

/-- A join is written unless it announces a secondary node at a format without these, or has a name, a
host or, where the format carries it, a software version of more than 65535 bytes. It is written on one line
that is short enough to be received, and it is read from there as it was, without the software version if
the format does not carry it. Whatever line is read as a request, the request can be written, and the line
that it is written on is read as the same. -/
theorem requests_round_trip :
    (∀ stream format n,
      ((∃ e, (join stream format n).line = .error e) ↔ n.kind = .secondary ∧ format < .v3 ∨
        65535 < Utf8.size n.name ∨ 65535 < Utf8.size n.host ∨
        .v2 ≤ format ∧ ∃ software ∈ n.software, 65535 < Utf8.size software) ∧
      ∀ written, (join stream format n).line = .ok written →
        Line.Plain written ∧ (Line.bytes written).length ≤ Line.limit ∧
        parse written = .ok (.join stream format (if format = .v1 then { n with software := none } else n))) ∧
    ∀ spelling request, parse spelling = .ok request →
      ∃ written, request.line = .ok written ∧ parse written = .ok request := by
  refine ⟨fun stream format n => ⟨?_, fun written done => ?_⟩, fun spelling request read => line_of_parse read⟩
  · have writes : (∃ written, (join stream format n).line = .ok written) ↔ _ := exists_line_iff
    rw [FormatVersion.lt_v3_iff, ← NodeType.not_oldestFormat_le_iff, ← Node.not_fits_iff, ← not_and_or, ← writes]
    cases (join stream format n).line <;> simp
  · obtain ⟨plain, short⟩ := plain_line done
    refine ⟨plain, ?_, ?_⟩
    · rw [Line.bytes, List.length_append]
      exact short
    · rw [parse_line done, n.restrict_eq_ite]

/-- A node with blanks and a line break in its name and a bar in its host. -/
def brokenName : Node := .joining "a b\n" .monitor "h|" 9 (some "7")

/-- The node is announced on one line. Another spelling of that line is read as the same request. -/
theorem brokenName_round_trips :
    let announced := join 7 .v1 { brokenName with software := none }
    let written := "JOIN 7 1 00046120620a00000000010002687c00090000000000"
    (join 7 .v1 brokenName).line = .ok written ∧ parse written = .ok announced ∧
      (∃ again, announced.line = .ok again ∧ parse again = .ok announced) ∧
      ∃ e, (join 6 .v2 { brokenName with kind := .secondary }).line = .error e := by
  intro announced written
  obtain ⟨writes, anew⟩ := requests_round_trip
  have spelled : parse "\tJOIN +007  01 00046120620a00000000010002687c00090000000000 " = .ok announced := by
    decide +kernel
  have done : (join 7 .v1 brokenName).line = .ok written := by decide +kernel
  obtain ⟨-, -, read⟩ := (writes 7 .v1 brokenName).2 written done
  refine ⟨done, read, anew _ announced spelled, ?_⟩
  exact (writes 6 .v2 { brokenName with kind := .secondary }).1.mpr (Or.inl ⟨rfl, by decide⟩)

end Request

end Roster

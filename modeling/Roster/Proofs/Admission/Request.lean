import Roster.Admission.Request
import Roster.Proofs.Admission.Line
import Roster.Proofs.Group.Edit
import Roster.Proofs.Group.Weight
import Roster.Proofs.Text.Decimal

/-!
# Requests as they arrive

A join that is written is one short line, whatever the names in it, and it is read as the same join
with the node as its format carries it.
-/

namespace Roster

/-- Every format is written as one digit. -/
theorem FormatVersion.isWord_text (format : FormatVersion) :
    IsWord format.text ∧ format.text.toList.length = 1 := by
  cases format <;> exact ⟨by decide, by decide⟩

namespace Node

theorem bytes_restrict (n : Node) (format : FormatVersion) :
    (n.restrict format).bytes format = n.bytes format := by
  by_cases hs : format.carriesSoftware = true
  · rw [restrict, if_pos hs]
  · simp [restrict, bytes, hs]

theorem toToken_eq_ok_iff {n : Node} {format : FormatVersion} {token : String} :
    n.toToken format = .ok token ↔
      n.kind.oldestFormat ≤ format ∧ n.Fits format ∧ token = TokenStream.encode [n.bytes format] := by
  rw [toToken]
  constructor
  · intro h
    obtain ⟨kind, h⟩ := guard_bind_eq_ok_iff.mp h
    obtain ⟨bs, written, h⟩ := bind_eq_ok_iff.mp h
    obtain ⟨fits, rfl⟩ := record_eq_ok_iff.mp written
    cases h
    exact ⟨not_not.mp kind, fits, rfl⟩
  · rintro ⟨kind, fits, rfl⟩
    exact guard_bind_eq_ok_iff.mpr ⟨not_not_intro kind,
      bind_eq_ok_iff.mpr ⟨_, record_eq_ok_iff.mpr ⟨fits, rfl⟩, rfl⟩⟩

/-- A node is read from a token exactly if the token is what the node is written as and nothing of the node
is left out there. -/
theorem ofToken_eq_ok_iff {n : Node} {format : FormatVersion} {token : String} :
    ofToken token format = .ok n ↔ n.Expressible format ∧ n.toToken format = .ok token := by
  rw [toToken_eq_ok_iff, ofToken, bind_eq_ok_iff]
  constructor
  · rintro ⟨tokens, decoded, h⟩
    split at h
    · obtain ⟨expressible, fits, rfl⟩ := token_eq_ok_iff.mp h
      obtain ⟨-, -, rfl⟩ := TokenStream.decode_eq_ok_iff.mp decoded
      exact ⟨expressible, expressible.kind, fits, rfl⟩
    · cases h
  · rintro ⟨expressible, -, fits, rfl⟩
    refine ⟨[n.bytes format], TokenStream.decode_eq_ok_iff.mpr ⟨by simp, by simp [bytes_ne_nil], rfl⟩, ?_⟩
    exact token_eq_ok_iff.mpr ⟨expressible, fits, rfl⟩

/-- A node is read from its token as the token's format carries it. -/
theorem ofToken_of_toToken {n : Node} {format : FormatVersion} {token : String}
    (h : n.toToken format = .ok token) : ofToken token format = .ok (n.restrict format) := by
  obtain ⟨kind, fits, rfl⟩ := toToken_eq_ok_iff.mp h
  have expressible := restrict_expressible kind
  refine ofToken_eq_ok_iff.mpr ⟨expressible, toToken_eq_ok_iff.mpr ⟨expressible.kind, fits.restrict, ?_⟩⟩
  rw [bytes_restrict]

/-- The texts of a node that is read from a record fit into records of any format. -/
theorem fits_of_ofToken {token : String} {written : FormatVersion} {n : Node}
    (h : ofToken token written = .ok n) (format : FormatVersion) : n.Fits format := by
  obtain ⟨expressible, announced⟩ := ofToken_eq_ok_iff.mp h
  exact expressible.fits (toToken_eq_ok_iff.mp announced).2.1 format

theorem weight_le {n : Node} {format : FormatVersion} (fits : n.Fits format) : n.weight format ≤ 196624 := by
  have short : ∀ {s : String}, Field.Fits s → Utf8.size s ≤ 65535 := fun h => h
  have software : (if format.carriesSoftware then Field.optionalWeight n.software else 0) ≤ 65538 := by
    split
    · rename_i carries
      cases known : n.software with
      | none => decide
      | some s => exact Nat.add_le_add_left (short (fits.software carries s known)) 3
    · decide
  have name := short fits.name
  have host := short fits.host
  rw [weight]
  omega

theorem isWord_token {n : Node} {format : FormatVersion} {token : String}
    (h : n.toToken format = .ok token) : IsWord token ∧ token.toList.length ≤ 393248 := by
  obtain ⟨-, fits, rfl⟩ := toToken_eq_ok_iff.mp h
  have spelled : (TokenStream.encode [n.bytes format]).toList = Hex.encode (n.bytes format) := by
    rw [TokenStream.encode, List.map_singleton, List.intercalate_singleton, String.toList_ofList]
  have short := weight_le fits
  refine ⟨⟨?_, ?_⟩, ?_⟩
  · rw [spelled, ne_eq, Hex.encode_eq_nil_iff]
    exact bytes_ne_nil n format
  · rw [spelled]
    exact fun c mem => Hex.isVisible_of_isDigit (Hex.isDigit_of_mem_encode mem)
  · rw [spelled, Hex.length_encode, length_bytes]
    omega

end Node

namespace Request

/-- The words of a line spell a request. A number may be spelled in several ways, and what follows the word
that asks for the status is passed over. -/
inductive Spells : List String → Request → Prop
  | join {version code token : String} {stream : UInt32} {format : FormatVersion} {n : Node}
      (numbered : Decimal.parseUInt32 version = .ok stream) (known : Decimal.parseUInt16 code = .ok format.code)
      (announced : Node.ofToken token format = .ok n) : Spells ["JOIN", version, code, token] (.join stream format n)
  | status (more : List String) : Spells ("STATUS" :: more) .status

variable {stream : UInt32} {format : FormatVersion} {n : Node} {written : String}

theorem line_eq_ok_iff :
    (join stream format n).line = .ok written ↔ ∃ token, n.toToken format = .ok token ∧
      written = "JOIN" ++ (" " ++ (toString stream ++ (" " ++ (format.text ++ (" " ++ token))))) := by
  have joined : ∀ token : String, s!"JOIN {stream} {format.text} {token}" =
      "JOIN" ++ (" " ++ (toString stream ++ (" " ++ (format.text ++ (" " ++ token))))) := by
    intro token
    have kind : "JOIN " = "JOIN" ++ " " := by decide
    show "JOIN " ++ toString stream ++ " " ++ format.text ++ " " ++ token = _
    simp only [kind, String.append_assoc]
  rw [line, map_eq_ok_iff]
  constructor
  · rintro ⟨token, announced, rfl⟩
    exact ⟨token, announced, joined token⟩
  · rintro ⟨token, announced, rfl⟩
    exact ⟨token, announced, joined token⟩

theorem field_eq_ok_iff {what word : String} {given rest : List String} :
    field what given = .ok (word, rest) ↔ given = word :: rest := by
  cases given <;> simp [field]

theorem parseFormat_eq_ok_iff {code : String} :
    parseFormat code = .ok format ↔ Decimal.parseUInt16 code = .ok format.code := by
  rw [parseFormat, bind_eq_ok_iff]
  simp only [mapError_eq_ok_iff, FormatVersion.ofCode_eq_ok_iff, exists_eq_right]

theorem parseJoin_eq_ok_iff {given : List String} {request : Request} :
    parseJoin given = .ok request ↔ Spells ("JOIN" :: given) request := by
  constructor
  · intro h
    obtain ⟨⟨version, _⟩, first, h⟩ := bind_eq_ok_iff.mp h
    obtain ⟨stream, numbered, h⟩ := bind_eq_ok_iff.mp h
    obtain ⟨⟨code, _⟩, second, h⟩ := bind_eq_ok_iff.mp h
    obtain ⟨format, known, h⟩ := bind_eq_ok_iff.mp h
    obtain ⟨⟨token, rest⟩, third, h⟩ := bind_eq_ok_iff.mp h
    obtain ⟨n, announced, ended⟩ := bind_eq_ok_iff.mp h
    obtain rfl := field_eq_ok_iff.mp first
    obtain rfl := field_eq_ok_iff.mp second
    obtain rfl := field_eq_ok_iff.mp third
    split at ended
    · rename_i none
      cases ended
      obtain rfl := List.isEmpty_iff.mp none
      exact .join (mapError_eq_ok_iff.mp numbered) (parseFormat_eq_ok_iff.mp known)
        (mapError_eq_ok_iff.mp announced)
    · cases ended
  · intro spelled
    -- two different literals are no constructors, so the words are made general before the cases
    generalize split : "JOIN" :: given = spelling at spelled
    cases spelled with
    | join numbered known announced =>
      obtain rfl := List.tail_eq_of_cons_eq split
      exact bind_eq_ok_iff.mpr ⟨_, rfl, bind_eq_ok_iff.mpr ⟨_, mapError_eq_ok_iff.mpr numbered,
        bind_eq_ok_iff.mpr ⟨_, rfl, bind_eq_ok_iff.mpr ⟨_, parseFormat_eq_ok_iff.mpr known,
        bind_eq_ok_iff.mpr ⟨_, rfl, bind_eq_ok_iff.mpr ⟨_, mapError_eq_ok_iff.mpr announced, rfl⟩⟩⟩⟩⟩⟩
    | status => exact absurd (List.head_eq_of_cons_eq split) (by decide)

theorem parse_eq_ok_iff {line : String} {request : Request} :
    parse line = .ok request ↔ Spells (words line) request := by
  rw [parse]
  constructor
  · intro h
    split at h
    · cases h
    · rename_i word rest given
      rw [given]
      split at h
      · rename_i join
        exact join ▸ parseJoin_eq_ok_iff.mp h
      · split at h
        · rename_i asks
          cases h
          exact asks ▸ .status rest
        · cases h
  · intro spelled
    split
    · rename_i none
      rw [none] at spelled
      cases spelled
    · rename_i word rest given
      rw [given] at spelled
      split
      · rename_i join
        exact parseJoin_eq_ok_iff.mpr (join ▸ spelled)
      · rename_i other
        cases spelled with
        | join => exact absurd rfl other
        | status => rfl

theorem ofToken_of_parse {line : String} (h : parse line = .ok (.join stream format n)) :
    ∃ token, Node.ofToken token format = .ok n := by
  have spelled := parse_eq_ok_iff.mp h
  generalize words line = given at spelled
  cases spelled with
  | join _ _ announced => exact ⟨_, announced⟩

theorem isWord_join : IsWord "JOIN" := by decide

theorem isWord_stream (stream : UInt32) : IsWord (toString stream) := Decimal.isWord_repr stream.toNat

/-- A join is read as it was written, with the node as the format carries it. -/
theorem parse_line (h : (join stream format n).line = .ok written) :
    parse written = .ok (.join stream format (n.restrict format)) := by
  obtain ⟨token, announced, rfl⟩ := line_eq_ok_iff.mp h
  rw [parse_eq_ok_iff, isWord_join.words_append, (isWord_stream stream).words_append,
    format.isWord_text.1.words_append, (Node.isWord_token announced).1.words_eq]
  exact .join (Decimal.parseUInt32_toString stream) (Decimal.parseUInt16_toString format.code)
    (Node.ofToken_of_toToken announced)

/-- The names in a join are spelled in hex, so it is one line, and a short one. -/
theorem plain_line (h : (join stream format n).line = .ok written) :
    Line.Plain written ∧ (Utf8.encode written).length < Line.limit := by
  obtain ⟨token, announced, rfl⟩ := line_eq_ok_iff.mp h
  obtain ⟨word, short⟩ := Node.isWord_token announced
  obtain ⟨digit, one⟩ := format.isWord_text
  have number := isWord_stream stream
  constructor
  · exact Line.plain_word_append isWord_join (Line.plain_word_append number
      (Line.plain_word_append digit (Line.plain_of_isWord word)))
  · have digits := Decimal.length_repr_uint32 stream
    have space : Utf8.size " " = 1 := rfl
    simp only [Utf8.length_encode, Utf8.size_append, Line.size_of_isWord number,
      Line.size_of_isWord digit, Line.size_of_isWord word, Line.size_of_isWord isWord_join, space]
    rw [one, show "JOIN".toList.length = 4 from rfl, Line.limit]
    omega

end Request

end Roster

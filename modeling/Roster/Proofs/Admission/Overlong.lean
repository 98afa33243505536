import Roster.Proofs.Admission.LineBreak
import Roster.Proofs.Admission.Report

/-!
# Replies that are too long

A complaint about a request is short, unless it repeats the request's first word. A refusal is short
where the texts of the group fit into their fields. A verdict is short. So a reply that is longer than
a line may be is a group or a report as a rule, and it is one because of what the group holds.
-/

namespace Roster

theorem Decimal.size_le {n : Nat} (small : n < 10 ^ 7) : Utf8.size (toString n) ≤ 7 := by
  have digits : Utf8.size (toString n) = n.repr.toList.length := Line.size_of_isWord (isWord_repr n)
  rw [digits]
  exact (Nat.length_repr_le_iff (by decide)).mpr small

theorem FormatVersion.size_text (format : FormatVersion) : Utf8.size format.text = 1 := by
  rw [Line.size_of_isWord format.isWord_text.1, format.isWord_text.2]

section Within

variable {bound : Nat}

theorem TokenFault.Within.size_message_le {fault : TokenFault} (h : fault.Within bound) (small : bound < 10 ^ 7) :
    Utf8.size fault.message ≤ 60 := by
  have number : ∀ {n : Nat}, n ≤ bound → Utf8.size (toString n) ≤ 7 :=
    fun le => Decimal.size_le (Nat.lt_of_le_of_lt le small)
  have place : Utf8.size " at offset " = 11 := rfl
  cases fault with
  | notHex byte offset =>
    have told : (notHex byte offset).message = "byte 0x" ++ Hex.text [byte] ++ " at offset " ++
      toString offset ++ " is not lowercase hex" := rfl
    have digits : Utf8.size (Hex.text [byte]) = 2 := by
      rw [Hex.text, Utf8.size_of_ascii, String.toList_ofList, Hex.length_encode, List.length_singleton]
      intro c mem
      rw [String.toList_ofList] at mem
      exact Nat.lt_trans (Hex.isVisible_of_isDigit (Hex.isDigit_of_mem_encode mem)).2 (by decide)
    have before : Utf8.size "byte 0x" = 7 := rfl
    have after : Utf8.size " is not lowercase hex" = 21 := rfl
    have offset := number h
    rw [told]
    simp only [Utf8.size_append, digits, before, place, after]
    omega
  | empty => decide
  | oddLength digits =>
    have told : (oddLength digits).message = "odd hex length " ++ toString digits := rfl
    have before : Utf8.size "odd hex length " = 15 := rfl
    have digits := number h
    rw [told, Utf8.size_append, before]
    omega
  | truncated field offset =>
    have told : (truncated field offset).message = "truncated reading " ++ field ++ " at offset " ++
      toString offset := rfl
    have before : Utf8.size "truncated reading " = 18 := rfl
    have named : Utf8.size field ≤ 20 := h.1.2
    have offset := number h.2
    rw [told]
    simp only [Utf8.size_append, before, place]
    omega
  | notBoolean field value =>
    have told : (notBoolean field value).message = field ++ " is not a boolean: " ++ toString value.toNat := rfl
    have middle : Utf8.size " is not a boolean: " = 19 := rfl
    have named : Utf8.size field ≤ 20 := h.2
    have value := Decimal.size_le (Nat.lt_trans value.toNat_lt (by decide))
    rw [told, Utf8.size_append, Utf8.size_append, middle]
    omega
  | notUtf8 field =>
    have told : (notUtf8 field).message = field ++ " is not valid UTF-8" := rfl
    have after : Utf8.size " is not valid UTF-8" = 19 := rfl
    have named : Utf8.size field ≤ 20 := h.2
    rw [told, Utf8.size_append, after]
    omega
  | trailing count =>
    have told : (trailing count).message = toString count ++ " trailing byte(s)" := rfl
    have after : Utf8.size " trailing byte(s)" = 17 := rfl
    have count := number h
    rw [told, Utf8.size_append, after]
    omega
  | idAboveSequence | outOfOrder => exact h.elim

theorem StreamError.Within.size_message_le {e : StreamError} (h : e.Within bound) (small : bound < 10 ^ 7) :
    Utf8.size e.message ≤ 100 := by
  have number : ∀ {n : Nat}, n ≤ bound → Utf8.size (toString n) ≤ 7 :=
    fun le => Decimal.size_le (Nat.lt_of_le_of_lt le small)
  cases e with
  | unsupportedVersion version =>
    have told : (unsupportedVersion version).message = "format version " ++ toString version.toNat ++
      " is outside the supported range [" ++ FormatVersion.oldest.text ++ ", " ++ FormatVersion.newest.text ++
      "]" := rfl
    have before : Utf8.size "format version " = 15 := rfl
    have middle : Utf8.size " is outside the supported range [" = 33 := rfl
    have comma : Utf8.size ", " = 2 := rfl
    have after : Utf8.size "]" = 1 := rfl
    have version := Decimal.size_le (Nat.lt_trans version.toNat_lt (by decide))
    rw [told]
    simp only [Utf8.size_append, before, middle, comma, after, FormatVersion.size_text]
    omega
  | tokenCount declared actual => exact h.elim
  | malformedToken index fault =>
    have told : (malformedToken index fault).message = "corrupt stream: token " ++ toString index ++ ": " ++
      fault.message := rfl
    have before : Utf8.size "corrupt stream: token " = 22 := rfl
    have colon : Utf8.size ": " = 2 := rfl
    have index := number h.1
    have fault := h.2.size_message_le small
    rw [told]
    simp only [Utf8.size_append, before, colon]
    omega
  | corrupt cause =>
    cases cause with
    | notOneToken count =>
      have told : (corrupt (.notOneToken count)).message = "corrupt stream: " ++
        ("expected one node token, found " ++ toString count) := rfl
      have before : Utf8.size "corrupt stream: " = 16 := rfl
      have middle : Utf8.size "expected one node token, found " = 31 := rfl
      have count := number h
      rw [told]
      simp only [Utf8.size_append, before, middle]
      omega
    | emptyStream => decide
    | _ => exact h.elim
  | secondaryUnsupported format count =>
    obtain rfl : count = 1 := h
    cases format <;> decide
  | unknownNodeType code format =>
    have told : (unknownNodeType code format).message = "node type code " ++ toString code.toNat ++
      " is not defined at format version " ++ format.text := rfl
    have before : Utf8.size "node type code " = 15 := rfl
    have middle : Utf8.size " is not defined at format version " = 34 := rfl
    have code := Decimal.size_le (Nat.lt_trans code.toNat_lt (by decide))
    rw [told]
    simp only [Utf8.size_append, before, middle, format.size_text]
    omega

theorem AdmissionError.Within.size_message_le {e : AdmissionError} (h : e.Within bound) (small : bound < 10 ^ 7)
    (known : ∀ word, e ≠ .protocol (.unknownRequest word)) : Utf8.size e.message ≤ 100 := by
  cases e with
  | protocol fault =>
    cases fault with
    | unknownRequest word => exact absurd rfl (known word)
    | missingField what =>
      have told : (AdmissionError.protocol (.missingField what)).message = "protocol error: " ++
        ("JOIN needs a " ++ what) := rfl
      have before : Utf8.size "protocol error: " = 16 := rfl
      have middle : Utf8.size "JOIN needs a " = 13 := rfl
      have named : Utf8.size what ≤ 20 := h.2
      rw [told, Utf8.size_append, Utf8.size_append, before, middle]
      omega
    | badStreamVersion fault | badTokenFormat fault => cases fault <;> decide
    | emptyRequest | trailingArguments => decide
    | _ => exact h.elim
  | stream cause => exact StreamError.Within.size_message_le h small
  | _ => exact h.elim

end Within

theorem Line.length_bytes (s : String) : (bytes s).length = Utf8.size s + 1 := by
  rw [bytes, List.length_append, Utf8.length_encode, List.length_singleton]

namespace Reply

theorem length_group {g : Group} {stream : String} (written : g.stream = .ok stream) :
    (Line.bytes (Reply.group g.format stream).line).length = g.weight + 9 := by
  have kind : Utf8.size "GROUP" = 5 := rfl
  have space : Utf8.size " " = 1 := rfl
  rw [Line.length_bytes, line_group]
  simp only [Utf8.size_append, kind, space, FormatVersion.size_text, Group.size_stream written]
  omega

theorem length_status (report : StatusReport) :
    (Line.bytes (Reply.status report).line).length = report.weight + 8 := by
  have told : (Reply.status report).line = "STATUS " ++ report.toJson.compact := rfl
  have kind : Utf8.size "STATUS " = 7 := rfl
  rw [Line.length_bytes, told, Utf8.size_append, kind, StatusReport.size_compact]
  omega

theorem length_error {code : String} (word : IsWord code) (message : String) :
    (Line.bytes (Reply.error code message).line).length = code.toList.length + Utf8.size message + 8 := by
  rw [Line.length_bytes, size_error word]

theorem length_badRequest (e : AdmissionError) :
    (Line.bytes (badRequest e).line).length = Utf8.size e.message + 19 := by
  have word : IsWord "bad_request" := by decide
  rw [badRequest, length_error word, show "bad_request".toList.length = 11 from rfl]
  omega

theorem length_unknown (word : String) :
    (Line.bytes (badRequest (.protocol (.unknownRequest word))).line).length = Utf8.size word + 51 := by
  have told : (AdmissionError.protocol (.unknownRequest word)).message = "protocol error: " ++
    ("unknown request " ++ word) := rfl
  have before : Utf8.size "protocol error: " = 16 := rfl
  have middle : Utf8.size "unknown request " = 16 := rfl
  rw [length_badRequest, told, Utf8.size_append, Utf8.size_append, before, middle]
  omega

end Reply

/-- What makes the reply to a request longer than a line may be. A refusal can be so only if a text of
the group does not fit into its field. -/
inductive Registry.Overlong (r : Registry) (request : String) : Reply → Prop
  | group {g : Group} {stream : String} (written : g.stream = .ok stream) (heavy : Line.limit < g.weight + 9) :
      Overlong r request (.group g.format stream)
  | status {report : StatusReport} (heavy : Line.limit < report.weight + 8) :
      Overlong r request (.status report)
  | unknown {word : String} (unread : Request.parse request = .error (.protocol (.unknownRequest word)))
      (long : Line.limit < Utf8.size word + 51) :
      Overlong r request (.badRequest (.protocol (.unknownRequest word)))
  | refused {n : Node} {e : UpdateError} (refuses : r.Refuses n e) (stuffed : ¬ r.current.Short)
      (long : Line.limit < e.code.toList.length + Utf8.size e.message + 8) :
      Overlong r request (.error e.code e.message)

/-- An answer is longer than a line may be exactly if something makes it so. -/
theorem Service.overlong_iff {s : Service} {now request : String} {c : Connection} {r : Registry} {reply : Reply}
    (wf : r.current.WellFormed) (short : request.toList.length < 10 ^ 7)
    (told : (s.answer now request c r).reply = some reply) :
    Line.limit < (Line.bytes reply.line).length ↔ r.Overlong request reply := by
  constructor
  · intro long
    cases answers s now request c r with
    | barred _ eq =>
      rw [eq] at told
      obtain rfl := Option.some.inj told
      exact absurd long (by decide)
    | @unread e _ parsed eq =>
      rw [eq] at told
      obtain rfl := Option.some.inj told
      by_cases known : ∀ word, e ≠ .protocol (.unknownRequest word)
      · have brief := (Request.within_parse parsed).size_message_le short known
        rw [Reply.length_badRequest] at long
        exact absurd long (Nat.not_lt.mpr (Nat.le_trans (Nat.add_le_add_right brief 19) (by decide)))
      · obtain ⟨word, same⟩ := not_forall.mp known
        obtain rfl := not_not.mp same
        exact .unknown parsed (Reply.length_unknown word ▸ long)
    | status _ _ eq =>
      rw [eq] at told
      obtain rfl := Option.some.inj told
      exact .status (Reply.length_status _ ▸ long)
    | @incompatible version format n verdict _ _ _ eq =>
      rw [eq] at told
      obtain rfl := Option.some.inj told
      have brief := Reply.size_incompatible verdict
      rw [Line.length_bytes] at long
      exact absurd long (Nat.not_lt.mpr (Nat.le_trans (Nat.add_le_add_right brief 1) (by decide)))
    | @join version written n _ parsed _ eq =>
      rw [eq] at told
      rcases Turn.accept_tells wf told with ⟨g, stream, own, rfl⟩ | ⟨e, refuses, rfl⟩
      · exact .group own (Reply.length_group own ▸ long)
      · rw [Reply.length_error e.isWord_code.1] at long
        refine .refused refuses (fun all => ?_) long
        obtain ⟨token, announced⟩ := Request.ofToken_of_parse parsed
        have brief := refuses.size_message_le wf all (Node.fits_of_ofToken announced _)
        have code := e.isWord_code.2
        have limit : 200027 ≤ Line.limit := by decide
        omega
  · intro overlong
    cases overlong with
    | group written heavy => rwa [Reply.length_group written]
    | status heavy => rwa [Reply.length_status]
    | unknown _ long => rwa [Reply.length_unknown]
    | refused _ _ long => rwa [Reply.length_error (UpdateError.isWord_code _).1]

end Roster

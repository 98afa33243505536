import Roster.Admission.Reply
import Roster.Proofs.Admission.Reading
import Roster.Proofs.Admission.Request
import Roster.Proofs.Channel.Writing
import Roster.Proofs.Registry.Message

/-!
# Replies as they are read

The joiner reads the first line that comes back. A group, the verdict of the gate and an error are
each read as what they were written for; of an error's message as much is read as stands in front
of its first newline.
-/

namespace Roster

theorem GateReason.isWord_text (reason : GateReason) :
    IsWord reason.text ∧ reason.text.toList.length ≤ 22 := by
  cases reason <;> exact ⟨by decide, by decide⟩

theorem UpdateError.isWord_code (e : UpdateError) : IsWord e.code ∧ e.code.toList.length ≤ 19 := by
  cases e with
  | edit cause =>
    cases cause
    all_goals
      simp only [code, EditError.code]
      exact ⟨by decide, by decide⟩
  | store cause =>
    simp only [code]
    exact ⟨by decide, by decide⟩

theorem TokenStream.plain_encode (tokens : List (List UInt8)) : Line.Plain (encode tokens) :=
  Line.plain_of_le fun _ mem => Nat.le_of_lt (isVisible_of_mem_encode mem).1

namespace Reply

theorem cut_append {w : String} (hw : IsWord w) (rest : String) : cut (w ++ (" " ++ rest)) = (w, rest) :=
  cut_of_free (fun mem => absurd (hw.visible _ mem).1 (by decide)) rest

section Lines

theorem line_group (format : FormatVersion) (stream : String) :
    (Reply.group format stream).line = "GROUP" ++ (" " ++ (format.text ++ (" " ++ stream))) :=
  spelled_group format.text stream

theorem line_incompatible (v : Incompatibility) : (Reply.incompatible v).line =
    "INCOMPATIBLE" ++ (" " ++ (toString v.stream ++ (" " ++ (v.format.text ++ (" " ++ v.reason.text))))) :=
  spelled_refusal (toString v.stream) v.format.text v.reason.text

theorem line_error (code message : String) :
    (Reply.error code message).line = "ERROR" ++ (" " ++ (code ++ (" " ++ message))) := by
  have kind : "ERROR " = "ERROR" ++ " " := by decide
  show "ERROR " ++ code ++ " " ++ message = _
  simp only [kind, String.append_assoc]

theorem isWord_group : IsWord "GROUP" := by decide

theorem isWord_incompatible : IsWord "INCOMPATIBLE" := by decide

theorem isWord_error : IsWord "ERROR" := by decide

end Lines

/-- A group that lists the node is read as it is. -/
theorem readGroup_group {g : Group} {stream name : String} (wf : g.WellFormed)
    (written : g.stream = .ok stream) (listed : (g.find? name).isSome = true) :
    readGroup name (Reply.group g.format stream).line = .ok g := by
  have read : Group.ofStreamAt stream g.format = .ok g :=
    bind_eq_ok_iff.mpr ⟨g, Group.ofStream_eq_ok_iff.mpr ⟨wf, written⟩, if_pos rfl⟩
  exact readGroup_eq_ok_iff.mpr (.listing (Decimal.parseUInt16_toString g.format.code) read listed)

/-- The verdict of the gate is read with both versions and the reason. -/
theorem readGroup_incompatible (name : String) (v : Incompatibility) :
    readGroup name (Reply.incompatible v).line =
      .error (.refused v.stream v.format.code v.reason.text) := by
  have shown : (trim v.reason.text).isEmpty = false := by
    cases v.reason <;> decide
  exact readGroup_eq_refused_iff.mpr
    (.verdict (Decimal.parseUInt32_toString v.stream) (Decimal.parseUInt16_toString v.format.code) shown)

theorem readGroup_error {code : String} (word : IsWord code) (name message : String) :
    readGroup name (Reply.error code message).line = .error (.remote code message) := by
  have fields : remoteError (code ++ (" " ++ message)) = .remote code message := by
    rw [remoteError, cut_append word]
  rw [line_error, readGroup, cut_append isWord_error]
  exact (if_neg (by decide)).trans ((if_neg (by decide)).trans ((if_pos rfl).trans
    (congrArg Except.error fields)))

section Heard

variable {g : Group} {code stream : String}

theorem plain_group (written : g.stream = .ok stream) : Line.Plain (Reply.group g.format stream).line := by
  obtain ⟨tokens, -, rfl⟩ := map_eq_ok_iff.mp written
  rw [line_group]
  exact Line.plain_word_append isWord_group
    (Line.plain_word_append g.format.isWord_text.1 (TokenStream.plain_encode tokens))

theorem plain_incompatible (v : Incompatibility) : Line.Plain (Reply.incompatible v).line := by
  rw [line_incompatible]
  exact Line.plain_word_append isWord_incompatible
    (Line.plain_word_append (Request.isWord_stream v.stream)
      (Line.plain_word_append v.format.isWord_text.1 (Line.plain_of_isWord v.reason.isWord_text.1)))

/-- An error's code is heard whole, whatever its message is. -/
theorem heard_error (word : IsWord code) (message : String) :
    Line.heard (Reply.error code message).line = (Reply.error code (Line.heard message)).line := by
  rw [line_error, line_error, Line.heard_append (Line.plain_of_isWord isWord_error),
    Line.heard_append Line.plain_space, Line.heard_append (Line.plain_of_isWord word),
    Line.heard_append Line.plain_space]

theorem size_incompatible (v : Incompatibility) : Utf8.size (Reply.incompatible v).line ≤ 48 := by
  have digits := Decimal.length_repr_uint32 v.stream
  obtain ⟨digit, one⟩ := v.format.isWord_text
  obtain ⟨reason, short⟩ := v.reason.isWord_text
  have space : Utf8.size " " = 1 := rfl
  have kind : Utf8.size "INCOMPATIBLE" = 12 := rfl
  rw [line_incompatible]
  simp only [Utf8.size_append, Line.size_of_isWord (Request.isWord_stream v.stream),
    Line.size_of_isWord digit, Line.size_of_isWord reason, space, kind]
  omega

theorem size_error (word : IsWord code) (message : String) :
    Utf8.size (Reply.error code message).line = code.toList.length + Utf8.size message + 7 := by
  have space : Utf8.size " " = 1 := rfl
  have kind : Utf8.size "ERROR" = 5 := rfl
  rw [line_error]
  simp only [Utf8.size_append, Line.size_of_isWord word, space, kind]
  omega

end Heard

end Reply

namespace Joiner

variable {w : Wire} {chunks : List (List UInt8)}

theorem expectReply_fst (w : Wire) : (expectReply w).1 = (LineBuffer.empty.readLine w).1.bind fun line =>
    line.elim (.error (.protocol .closedBeforeReply)) .ok := by
  rw [expectReply]
  rcases LineBuffer.empty.readLine w with ⟨e | _ | reply, kept, after⟩
  all_goals rfl

/-- The joiner hears the first line of what is sent back, unless it is too long. -/
theorem expectReply_cases {reply : String} (gives : w.Gives chunks)
    (answered : chunks.flatten = Line.bytes reply) :
    (expectReply w).1 = .ok (Line.heard reply) ∨
      Line.limit ≤ Utf8.size reply ∧ (expectReply w).1 = .error .lineTooLong := by
  obtain ⟨behind, split⟩ := Line.bytes_split reply
  have whole : LineBuffer.empty.toList ++ chunks.flatten =
      (Utf8.encode reply).takeWhile (· != Line.newline) ++ Line.newline :: behind := answered.trans split
  rcases LineBuffer.readLine_cases gives whole (LineBuffer.newline_free _) with
    ⟨kept, after, -, read, -, -⟩ | ⟨long, read⟩
  · rw [Line.text_takeWhile] at read
    rw [expectReply, read]
    exact Or.inl rfl
  · refine Or.inr ⟨?_, ?_⟩
    · rw [← Utf8.length_encode]
      exact Nat.le_trans long (List.takeWhile_sublist _).length_le
    · rw [expectReply_fst, read]
      rfl

theorem expectReply_eq {reply : String} (gives : w.Gives chunks)
    (answered : chunks.flatten = Line.bytes reply) (short : Utf8.size reply < Line.limit) :
    (expectReply w).1 = .ok (Line.heard reply) := by
  rcases expectReply_cases gives answered with heard | ⟨long, -⟩
  · exact heard
  · exact absurd short (Nat.not_lt.mpr long)

theorem expectReply_congr {v : Wire} (arrivals : w.arrivals = v.arrivals) :
    (expectReply w).1 = (expectReply v).1 := by
  rw [expectReply_fst, expectReply_fst, LineBuffer.readLine_congr arrivals]

theorem expectReply_sent (w : Wire) : (expectReply w).2.sent = w.sent := by
  have same := LineBuffer.empty.readLine_sent w
  rw [expectReply]
  split
  all_goals
    rename_i read
    rw [read] at same
    exact same

section Ask

variable {α : Type} {request : Request} {written : String} (read : String → Except AdmissionError α)

theorem ask_of_sent {ready : Wire} (line : request.line = .ok written)
    (sent : w.writeLine written = (.ok (), ready)) :
    ask request read w = ((expectReply ready).1 >>= read, (expectReply ready).2) := by
  rw [ask, line]
  simp only [sent]

/-- A request reaches the far side whole; then the reply is read from what that side sends. -/
theorem ask_eq (willing : w.Willing) (line : request.line = .ok written) :
    ∃ after, after.arrivals = w.arrivals ∧ (ask request read w).1 = (expectReply after).1 >>= read ∧
      (ask request read w).2.sent = w.sent ++ Line.bytes written := by
  obtain ⟨after, ready⟩ := willing.writeLine written
  obtain ⟨sent, arrivals⟩ := Wire.writeLine_sends ready
  rw [ask_of_sent read line ready]
  exact ⟨after, arrivals, rfl, (expectReply_sent after).trans sent⟩

theorem ask_answered (willing : w.Willing) (gives : w.Gives chunks) (line : request.line = .ok written)
    {reply : String} (answered : chunks.flatten = Line.bytes reply)
    (short : Utf8.size reply < Line.limit) : (ask request read w).1 = read (Line.heard reply) := by
  obtain ⟨after, arrivals, result, -⟩ := ask_eq read willing line
  rw [result, expectReply_eq (gives.of_arrivals arrivals) answered short]
  rfl

end Ask

section Join

variable {version : UInt32} {node : Node} {format : FormatVersion}

theorem join_unknown (unknown : StreamVersion.newestFormat? version = none) (w : Wire) :
    join version node w = (.error (.protocol (.unknownStream version)), w) := by
  rw [join, Request.announce, unknown]

theorem join_known (known : StreamVersion.newestFormat? version = some format) (w : Wire) :
    join version node w = ask (.join version format node) (Reply.readGroup node.name) w := by
  rw [join, Request.announce, known]
  rfl

theorem join_unwritable (known : StreamVersion.newestFormat? version = some format)
    {cause : StreamError} (failed : node.toToken format = .error cause) (w : Wire) :
    join version node w = (.error (.stream cause), w) := by
  have line : (Request.join version format node).line = .error cause := by
    rw [Request.line, failed]
    rfl
  rw [join_known known, ask, line]

end Join

end Joiner

end Roster

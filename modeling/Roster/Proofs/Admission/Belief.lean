import Roster.Proofs.Admission.Heard
import Roster.Proofs.Group.Conversion

/-!
# What a joiner believes

Once a joiner has sent its request, the first line that comes back decides, whatever the far side sends
and in whatever pieces. A group is believed if the line hands it out, a refusal if the line states it, and
nothing is filled in that the line does not say.
-/

namespace Roster

namespace Joiner

variable {w ready : Wire} {line : String}

theorem expectReply_eq_ok_iff {heard : String} :
    (expectReply w).1 = .ok heard ↔ (LineBuffer.empty.readLine w).1 = .ok (some heard) := by
  rw [expectReply_fst]
  rcases (LineBuffer.empty.readLine w).1 with e | _ | reply <;> simp [Except.bind]

/-- A joiner takes a group from the first line and from nothing else. -/
theorem heard_group_iff {name : String} {g : Group} : (expectReply w).1 >>= Reply.readGroup name = .ok g ↔
    ∃ number stream target,
      (LineBuffer.empty.readLine w).1 = .ok (some ("GROUP " ++ number ++ " " ++ stream)) ∧
      Decimal.parseUInt16 number = .ok (FormatVersion.code target) ∧
      Group.ofStreamAt stream target = .ok g ∧ (g.find? name).isSome = true := by
  rw [bind_eq_ok_iff]
  simp only [expectReply_eq_ok_iff, Reply.readGroup_eq_ok_iff]
  constructor
  · rintro ⟨_, heard, named, read, listed⟩
    exact ⟨_, _, _, heard, named, read, listed⟩
  · rintro ⟨_, _, _, heard, named, read, listed⟩
    exact ⟨_, heard, .listing named read listed⟩

theorem heard_refusal_iff {name reason : String} {stream : UInt32} {format : UInt16} :
    (expectReply w).1 >>= Reply.readGroup name = .error (.refused stream format reason) ↔
      ∃ heard, (LineBuffer.empty.readLine w).1 = .ok (some heard) ∧ Reply.Refuses heard stream format reason := by
  rw [bind_eq_error_iff, or_iff_right (expectReply_ne_refused w stream format reason)]
  simp only [expectReply_eq_ok_iff, Reply.readGroup_eq_refused_iff]

/-- Let a join have been written, and let the far side then send anything in any pieces. The joiner ends with
a group exactly if the first line is "GROUP", the number of a format and a stream that is read as the group at
that format and has a record under the joiner's name. Such a group is declared at the format that the line
names; no id in it is above its sequence, and only the newest format has secondary records. The joiner
ends with a refusal exactly if the first line is one, with two versions and a reason. With any other line it
ends with another error. In each case the request is all that has been written. -/
theorem reply_is_believed_iff {version : UInt32} {format : FormatVersion} {node : Node}
    (written : (Request.join version format node).line = .ok line) (sent : w.writeLine line = (.ok (), ready)) :
    let first := (LineBuffer.empty.readLine ready).1
    let result := (send (.join version format node) w).1
    (∀ g, result = .ok g ↔ ∃ number stream target, first = .ok (some ("GROUP " ++ number ++ " " ++ stream)) ∧
      Decimal.parseUInt16 number = .ok (FormatVersion.code target) ∧
      Group.ofStreamAt stream target = .ok g ∧ (g.find? node.name).isSome = true) ∧
    (∀ g, result = .ok g →
      (∃ number stream, first = .ok (some ("GROUP " ++ number ++ " " ++ stream)) ∧
        Decimal.parseUInt16 number = .ok g.format.code) ∧
      (∀ n ∈ g.nodes, n.id ≤ g.sequence) ∧ ∀ n ∈ g.nodes, n.kind = .secondary → g.format = .v3) ∧
    (∀ stream group reason, result = .error (.refused stream group reason) ↔
      ∃ heard, first = .ok (some heard) ∧ Reply.Refuses heard stream group reason) ∧
    (send (.join version format node) w).2.sent = w.sent ++ Line.bytes line := by
  intro first result
  have asked := ask_of_sent (Reply.readGroup node.name) written sent
  have heard : result = (expectReply ready).1 >>= Reply.readGroup node.name := congrArg Prod.fst asked
  have after : (send (.join version format node) w).2 = (expectReply ready).2 := congrArg Prod.snd asked
  rw [heard, after, expectReply_sent]
  refine ⟨fun g => heard_group_iff, fun g believed => ?_, fun _ _ _ => heard_refusal_iff,
    (Wire.writeLine_sends sent).1⟩
  obtain ⟨number, stream, target, line, named, read, listed⟩ := heard_group_iff.mp believed
  obtain ⟨reachable, writable⟩ := (Reply.Gives.listing named read listed).sound
  have declared : g.format = target := Group.format_of_ofStreamAt read
  refine ⟨⟨number, stream, line, declared ▸ named⟩, reachable.wellFormed.id_le, fun n mem secondary => ?_⟩
  exact writable.carries.resolve_left fun none => none n mem secondary

/-- A far side that takes the request in two pieces, sends the sample in two and then something else. -/
def answering : Wire where
  arrivals := [.bytes (Utf8.encode "GROUP +2 0002"),
    .bytes (Line.bytes ("00066f726465727300000000000000000000000000000000000000010000000100000001|" ++
      "00026e3100000001010002646200070000000001010002c3a9") ++ Utf8.encode "ERROR"),
    .fails .closed]
  acceptances := [.upTo 3]
  flushes := [.ends true]
  sent := []

def answeredLine : String := "JOIN 5 2 00026e3100000000010002646200070000000000" ++ "00"

theorem sample_is_believed :
    let sent := send (.join 5 .v2 (.joining "n1" .monitor "db" 7 none)) answering
    sent.1 = .ok Group.sample ∧ sent.2.sent = Line.bytes answeredLine := by
  intro sent
  have written : (Request.join 5 .v2 (.joining "n1" .monitor "db" 7 none)).line = .ok answeredLine := by
    decide +kernel
  have ready : answering.writeLine answeredLine =
      (.ok (), { answering with acceptances := [], flushes := [], sent := Line.bytes answeredLine }) := by
    decide +kernel
  obtain ⟨believes, -, -, whole⟩ := reply_is_believed_iff written ready
  refine ⟨(believes Group.sample).mpr ⟨"+2", Group.sampleStream, .v2, ?_, ?_, ?_, ?_⟩, whole⟩
  · decide +kernel
  · decide +kernel
  · decide +kernel
  · decide +kernel

end Joiner

end Roster

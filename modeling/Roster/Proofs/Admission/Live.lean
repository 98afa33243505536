import Roster.Proofs.Admission.Exchange

/-!
# Joins that nothing holds up

A server that is asked in one go gets the request in one piece and is heard in one chunk. That is one
way in which an exchange can go, so there is an exchange for every server, peer, version and node.
-/

namespace Roster

/-- Bytes that come all at once, if there are any. -/
def atOnce (bytes : List UInt8) : List (List UInt8) := if bytes = [] then [] else [bytes]

theorem flatten_atOnce (bytes : List UInt8) : (atOnce bytes).flatten = bytes := by
  rw [atOnce]
  split
  · exact Eq.symm ‹_›
  · exact List.append_nil bytes

theorem nonempty_atOnce (bytes : List UInt8) : ∀ piece ∈ atOnce bytes, piece ≠ [] := by
  rw [atOnce]
  split
  · exact List.forall_mem_nil _
  · exact List.forall_mem_singleton.mpr ‹_›

namespace Joiner

/-- No bytes and no more bytes are the same to a reader. -/
theorem expectReply_atOnce {w : Wire} {bytes : List UInt8}
    (arrivals : w.arrivals = (atOnce bytes).map .bytes) :
    (expectReply w).1 = (expectReply (.ofArrivals [.bytes bytes])).1 := by
  rw [atOnce] at arrivals
  split at arrivals
  · rename_i nothing
    have ended : (expectReply w).1 = (expectReply (.ofArrivals [])).1 := expectReply_congr arrivals
    rw [ended, nothing]
    decide +kernel
  · exact expectReply_congr arrivals

/-- What a joiner writes does not depend on what will come back. -/
theorem join_sent (version : UInt32) (node : Node) (arrivals : List Arrival) :
    (join version node (.ofArrivals arrivals)).2.sent = (join version node (.ofArrivals [])).2.sent := by
  cases known : StreamVersion.newestFormat? version with
  | none =>
    rw [join_unknown known, join_unknown known]
    rfl
  | some format =>
    rw [join_known known, join_known known]
    cases line : (Request.join version format node).line with
    | error cause =>
      rw [ask, ask, line]
      rfl
    | ok written =>
      have writes : ∀ w : Wire, w.Willing → w.sent = [] →
          (ask (.join version format node) (Reply.readGroup node.name) w).2.sent = Line.bytes written := by
        intro w willing unused
        obtain ⟨-, -, -, sent⟩ := ask_eq (Reply.readGroup node.name) willing line
        rw [sent, unused, List.nil_append]
      rw [writes _ (Wire.willing_ofArrivals _) rfl, writes _ (Wire.willing_ofArrivals _) rfl]

end Joiner

namespace Server

variable (s : Server) (now key : String) (trusted : Bool) (version : UInt32) (node : Node)

namespace Exchange

/-- The request of a joiner, in one piece. -/
def directPieces : List (String × List UInt8) :=
  (atOnce (Joiner.join version node (.ofArrivals [])).2.sent).map (now, ·)

/-- What the server sends back, in one chunk. -/
def directChunks : List (List UInt8) :=
  atOnce (s.sent key (call key now trusted none (directPieces now version node)))

/-- A join that nothing holds up. -/
def direct : Exchange s key where
  trusted := trusted
  peer := none
  version := version
  node := node
  wire := .ofArrivals ((directChunks s now key trusted version node).map .bytes)
  start := now
  pieces := directPieces now version node
  chunks := directChunks s now key trusted version node
  finish := now
  unused := rfl
  willing := Wire.willing_ofArrivals _
  gives := ⟨rfl, nonempty_atOnce _⟩
  cut := by
    intro piece mem
    obtain ⟨bytes, hbytes, rfl⟩ := List.mem_map.mp mem
    exact nonempty_atOnce _ bytes hbytes
  delivered := by
    rw [Joiner.join_sent, directPieces, List.flatMap_map]
    exact List.flatMap_id'.trans (flatten_atOnce _)
  answered := flatten_atOnce _

variable {s now key trusted version node}

theorem direct_after : (direct s now key trusted version node).after =
    (s.run (call key now trusted none (directPieces now version node))).act
      (.event now (.endInput key)) := rfl

section Unready

variable {cause : AdmissionError}

theorem directPieces_of_unwritten (unwritten : ∀ w, Joiner.join version node w = (.error cause, w)) :
    directPieces now version node = [] := by
  rw [directPieces, unwritten]
  rfl

theorem join_of_unready
    (unready : (Request.announce version node >>= fun request => request.line.mapError .stream) = .error cause)
    (unwritten : ∀ w, Joiner.join version node w = (.error cause, w)) :
    s.join now key trusted version node =
      ((direct s now key trusted version node).result, (direct s now key trusted version node).after) := by
  have result : (direct s now key trusted version node).result = .error cause :=
    congrArg Prod.fst (unwritten _)
  rw [join, unready, result, direct_after, directPieces_of_unwritten unwritten]
  rfl

end Unready

section Ready

variable {format : FormatVersion} {written : String}
  (known : StreamVersion.newestFormat? version = some format)
  (line : (Request.join version format node).line = .ok written)
include known line

theorem directPieces_of_line : directPieces now version node = [(now, Line.bytes written)] := by
  have something : Line.bytes written ≠ [] := by simp [Line.bytes]
  obtain ⟨-, -, -, sent⟩ :=
    Joiner.ask_eq (Reply.readGroup node.name) (Wire.willing_ofArrivals []) line
  rw [directPieces, Joiner.join_known known, sent]
  exact congrArg _ (if_neg something)

theorem directChunks_of_line : directChunks s now key trusted version node =
    atOnce ((s.act (.event now (.connect key trusted none))).apply now
      (.receive key (Line.bytes written))).1.bytes := by
  have silent : (s.outcome (.event now (.connect key trusted none))).bytes = [] := rfl
  rw [directChunks, directPieces_of_line known line, call, sent_cons, silent, ite_self, receipts,
    List.map_singleton, sent_receive]
  exact congrArg atOnce (List.append_nil _)

theorem join_of_line : s.join now key trusted version node =
    ((direct s now key trusted version node).result, (direct s now key trusted version node).after) := by
  have ready : (Request.announce version node >>= fun request => request.line.mapError .stream) =
      (.ok written : Except AdmissionError String) := by
    rw [Request.announce, known]
    exact mapError_eq_ok_iff.mpr line
  obtain ⟨after, arrivals, result, -⟩ := Joiner.ask_eq (Reply.readGroup node.name)
    (direct s now key trusted version node).willing line
  have chunks : (direct s now key trusted version node).wire.arrivals = List.map Arrival.bytes _ :=
    congrArg (List.map Arrival.bytes) (directChunks_of_line known line)
  have heard := Joiner.expectReply_atOnce (arrivals.trans chunks)
  have read : (direct s now key trusted version node).result =
      (Joiner.expectReply after).1 >>= Reply.readGroup node.name :=
    (congrArg Prod.fst (Joiner.join_known known _)).trans result
  rw [read, heard, direct_after, directPieces_of_line known line, join, ready]
  rfl

end Ready

end Exchange

/-- A join that is served in one go is an exchange that nothing holds up. -/
theorem join_eq_direct : s.join now key trusted version node =
    ((Exchange.direct s now key trusted version node).result,
      (Exchange.direct s now key trusted version node).after) := by
  cases known : StreamVersion.newestFormat? version with
  | none =>
    refine Exchange.join_of_unready ?_ (Joiner.join_unknown known)
    rw [Request.announce, known]
    rfl
  | some format =>
    cases announced : node.toToken format with
    | error cause =>
      refine Exchange.join_of_unready ?_ (Joiner.join_unwritable known announced)
      rw [Request.announce, known]
      change (Request.join version format node).line.mapError AdmissionError.stream = _
      rw [Request.line, announced]
      rfl
    | ok token => exact Exchange.join_of_line known (Request.line_eq_ok_iff.mpr ⟨token, announced, rfl⟩)

end Server

end Roster

import Roster.Proofs.Admission.Delivery
import Roster.Proofs.Admission.Refusal
import Roster.Proofs.Admission.Reply

/-!
# Joins as both sides see them

A joiner talks to a server on a connection of its own: the server gets what the joiner writes and
the joiner gets what the server sends, cut in any way. What the joiner makes of the reply is what the
server has made of the join.
-/

namespace Roster

namespace Gate

variable {format newest : FormatVersion} {stream : UInt32}

/-- A verdict is about the versions that were checked. -/
theorem check_eq_error {verdict : Incompatibility} (h : check format stream = .error verdict) :
    verdict.stream = stream ∧ verdict.format = format := by
  rw [check] at h
  split at h
  · cases h
    exact ⟨rfl, rfl⟩
  · split at h
    · cases h
      exact ⟨rfl, rfl⟩
    · split at h
      · cases h
        exact ⟨rfl, rfl⟩
      · cases h

/-- A stream version that passes reads formats at least as new as the group's. -/
theorem le_of_check (h : check format stream = .ok ())
    (known : StreamVersion.newestFormat? stream = some newest) : format ≤ newest := by
  rw [check, known] at h
  simp only at h
  split at h
  · cases h
  · split at h
    · cases h
    · exact UInt16.not_lt.mp ‹_›

end Gate

namespace Server

/-- A join on a connection of its own. The joiner's wire takes what is written to it in portions of
any size. What is written is delivered to the server in pieces, and the wire gives what the server
sends back, in chunks. -/
structure Exchange (s : Server) (key : String) where
  trusted : Bool
  peer : Option SocketAddress
  version : UInt32
  node : Node
  wire : Wire
  start : String
  pieces : List (String × List UInt8)
  chunks : List (List UInt8)
  finish : String
  unused : wire.sent = []
  willing : wire.Willing
  gives : wire.Gives chunks
  cut : ∀ piece ∈ pieces, piece.2 ≠ []
  delivered : pieces.flatMap Prod.snd = (Joiner.join version node wire).2.sent
  answered : chunks.flatten = s.sent key (call key start trusted peer pieces)

namespace Exchange

variable {s : Server} {key : String}

/-- What the joiner is left with. -/
def result (e : Exchange s key) : Except AdmissionError Group := (Joiner.join e.version e.node e.wire).1

def written (e : Exchange s key) : List UInt8 := (Joiner.join e.version e.node e.wire).2.sent

/-- The server after the joiner has left. -/
def after (e : Exchange s key) : Server :=
  (s.run (call key e.start e.trusted e.peer e.pieces)).act (.event e.finish (.endInput key))

variable {e : Exchange s key} {format : FormatVersion} {token : String}

section

variable (fresh : s.connections.lookup key = none)
include fresh

/-- A joiner that fails before it writes is not noticed. -/
theorem of_unwritten {cause : AdmissionError}
    (failed : Joiner.join e.version e.node e.wire = (.error cause, e.wire)) :
    e.result = .error cause ∧ e.written = [] ∧ e.after = s := by
  have silent : e.written = [] := by
    rw [written, failed]
    exact e.unused
  have none : e.pieces = [] := by
    have nothing : e.pieces.flatMap Prod.snd = [] := e.delivered.trans silent
    cases pieces : e.pieces with
    | nil => rfl
    | cons piece rest =>
      rw [pieces, List.flatMap_cons] at nothing
      have first := e.cut piece (pieces ▸ List.mem_cons_self)
      exact absurd (List.append_eq_nil_iff.mp nothing).1 first
  refine ⟨congrArg Prod.fst failed, silent, ?_⟩
  rw [after, none]
  exact endInput_connect fresh e.start e.finish e.trusted e.peer

theorem of_unknown (unknown : StreamVersion.newestFormat? e.version = none) :
    e.result = .error (.protocol (.unknownStream e.version)) ∧ e.written = [] ∧ e.after = s :=
  of_unwritten fresh (Joiner.join_unknown unknown e.wire)

theorem of_unwritable (known : StreamVersion.newestFormat? e.version = some format)
    {cause : StreamError} (failed : e.node.toToken format = .error cause) :
    e.result = .error (.stream cause) ∧ e.written = [] ∧ e.after = s :=
  of_unwritten fresh (Joiner.join_unwritable known failed e.wire)

variable (heard : s.service.requireTrusted = true → e.trusted = true)
  (known : StreamVersion.newestFormat? e.version = some format)
  (announced : e.node.toToken format = .ok token)
include heard known announced

/-- The server takes the join as it was written, and the joiner reads the reply. -/
theorem of_written :
    let turn := Turn.join e.version (e.node.restrict format) none s.registry
    e.after = { s with registry := turn.registry.letGo turn.held } ∧
      ∀ reply, turn.reply = some reply → Utf8.size reply.line < Line.limit →
        e.result = Reply.readGroup e.node.name (Line.heard reply.line) := by
  obtain ⟨request, line⟩ : ∃ request, (Request.join e.version format e.node).line = .ok request :=
    ⟨_, Request.line_eq_ok_iff.mpr ⟨token, announced, rfl⟩⟩
  have asked : Joiner.join e.version e.node e.wire = _ := Joiner.join_known known e.wire
  obtain ⟨-, -, -, sent⟩ := Joiner.ask_eq (Reply.readGroup e.node.name) e.willing line
  have whole := e.delivered
  rw [asked, sent, e.unused, List.nil_append] at whole
  obtain ⟨plain, short⟩ := Request.plain_line line
  obtain ⟨now, buffer, told, after⟩ :=
    serves_call fresh e.cut whole plain short e.start e.finish e.trusted e.peer
  have answer : s.service.answer now request ⟨e.trusted, e.peer, buffer, none⟩ s.registry =
      Turn.join e.version (e.node.restrict format) none s.registry := by
    have admitted : ¬ (s.service.requireTrusted && !e.trusted) = true := by
      intro barred
      obtain ⟨requires, stranger⟩ := Bool.and_eq_true_iff.mp barred
      rw [heard requires] at stranger
      cases stranger
    rw [Service.answer, if_neg admitted, Request.parse_line line]
  rw [answer] at told after
  refine ⟨after, fun reply replied short => ?_⟩
  have answered : e.chunks.flatten = Line.bytes reply.line := by
    rw [e.answered, told, replied, Option.toList_some, List.flatMap_singleton]
  rw [result, asked]
  exact Joiner.ask_answered _ e.willing e.gives line answered short

/-- A joiner that the gate turns away is told the verdict, and nothing has happened. -/
theorem of_incompatible {verdict : Incompatibility}
    (incompatible : Gate.check s.registry.current.format e.version = .error verdict) :
    e.result = .error (.refused e.version s.registry.current.format.code verdict.reason.text) ∧
      e.after = s := by
  obtain ⟨after, result⟩ := of_written fresh heard known announced
  simp only [Turn.join, incompatible] at after result
  refine ⟨?_, after⟩
  obtain ⟨stream, format⟩ := Gate.check_eq_error incompatible
  have short : Utf8.size (Reply.incompatible verdict).line < Line.limit :=
    Nat.lt_of_le_of_lt (Reply.size_incompatible verdict) (by decide)
  rw [result _ rfl short, Line.heard_plain (Reply.plain_incompatible verdict),
    Reply.readGroup_incompatible, stream, format]

variable (compatible : Gate.check s.registry.current.format e.version = .ok ())
include compatible

theorem of_compatible :
    let turn := Turn.accept (e.node.restrict format) none s.registry
    e.after = { s with registry := turn.registry.letGo turn.held } ∧
      ∀ reply, turn.reply = some reply → Utf8.size reply.line < Line.limit →
        e.result = Reply.readGroup e.node.name (Line.heard reply.line) := by
  have joined := of_written fresh heard known announced
  simp only [Turn.join, compatible] at joined
  exact joined

/-- A joiner that is not registered is told why, however long the names are. -/
theorem of_refused (used : s.InUse) {stream : String} (writable : s.registry.current.stream = .ok stream)
    {cause : UpdateError} {r : Registry} (refuses : s.registry.Refuses e.node cause)
    (failed : s.registry.register e.node = (.error (.refused cause), r)) :
    e.result = .error (.remote cause.code (Line.heard cause.message)) ∧
      e.after = { s with registry := r } := by
  rw [← Registry.register_restrict (Gate.le_of_check compatible known)] at failed
  obtain ⟨after, result⟩ := of_compatible fresh heard known announced compatible
  rw [Turn.accept_of_refused failed] at after result
  refine ⟨?_, after⟩
  obtain ⟨word, code⟩ := cause.isWord_code
  have current := Group.exists_streamAt_iff.mp ⟨stream, writable⟩
  have fits := (Node.toToken_eq_ok_iff.mp announced).2.1.of_le (Gate.le_of_check compatible known)
  have message := refuses.size_message_le used.reachable.wellFormed current.short fits
  have short : Utf8.size (Reply.error cause.code cause.message).line < Line.limit := by
    rw [Reply.size_error word, Line.limit]
    omega
  rw [result _ rfl short, Reply.heard_error word, Reply.readGroup_error word]

/-- A joiner that is registered gets the group that lists it. -/
theorem of_registered (used : s.InUse) {stream : String} (writable : s.registry.current.stream = .ok stream)
    {g : Group} {r : Registry} (registered : s.registry.register e.node = (.ok g, r)) :
    e.after.registry.current = g ∧ ∃ stream, g.stream = .ok stream ∧
      ((Line.bytes (Reply.group g.format stream).line).length ≤ Line.limit → e.result = .ok g) := by
  obtain ⟨admits, current, -⟩ := Registry.register_admits registered
  have reachable : g.Reachable := by
    have follows := (Registry.register_follows e.node s.registry).reachable used.reachable
    rwa [registered, current] at follows
  obtain ⟨stream, written⟩ : ∃ stream, g.stream = .ok stream := by
    rcases Registry.register_stored registered with ⟨stream, written, -⟩ | ⟨rfl, -⟩
    · exact ⟨stream, written⟩
    · exact ⟨stream, writable⟩
  rw [← Registry.register_restrict (Gate.le_of_check compatible known)] at registered
  obtain ⟨after, result⟩ := of_compatible fresh heard known announced compatible
  obtain ⟨kept, r', sends, same, -⟩ := Turn.accept_of_admitted none registered
  rw [sends, Turn.sendGroup_registry, Turn.sendGroup_held] at after
  rw [sends] at result
  refine ⟨?_, stream, written, fun short => ?_⟩
  · rw [after]
    exact (Registry.letGo_current _ _).trans (same.trans current)
  · have replied : (Turn.sendGroup g kept r').reply = some (.group g.format stream) :=
      Turn.sendGroup_reply_iff.mpr ⟨rfl, written⟩
    rw [Line.bytes, List.length_append, List.length_singleton, Utf8.length_encode] at short
    obtain ⟨m, found, -⟩ := admits.member
    rw [result _ replied (by omega), Line.heard_plain (Reply.plain_group written)]
    exact Reply.readGroup_group reachable.wellFormed written (Option.isSome_of_eq_some found)

end

end Exchange

end Server

end Roster

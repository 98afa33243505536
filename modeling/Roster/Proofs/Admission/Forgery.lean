import Roster.Proofs.Admission.Delivery
import Roster.Proofs.Admission.Join
import Roster.Proofs.Admission.Lineage

/-!
# What a joining node cannot decide

The record in a join has an id, a mark of removal and a change version, as it is written like any other
record. A server assigns these itself and does not look at those that come: two joins that differ in nothing
else are the same to it.
-/

namespace Roster

/-- What a joining node says of itself: its record, without what the group assigns. -/
def Node.claim (n : Node) : Node := .joining n.name n.kind n.host n.port n.software

namespace Group

variable {g g' : Group} {n : Node}

/-- The record that a group assigns to a node which is added. -/
structure Assigns (g : Group) (n : Node) (g' : Group) (m : Node) : Prop where
  known : g'.find? n.name = some m
  removed : m.removed = false
  id : m.id = g'.sequence ∧ g'.sequence.toNat = g.sequence.toNat + 1
  change : m.change = g'.change ∧ g'.change.toNat = g.change.toNat + 1

theorem assigns_add (h : g.add n = .ok g') : ∃ m, g.Assigns n g' m := by
  obtain ⟨free, -, hc, hs, rfl⟩ := add_eq_ok_iff.mp h
  have named : (g.enrol n).name = n.name := enrol_name g n
  have absent : g.records.find? (g.enrol n).name = none := by
    rw [named]
    exact free
  have known := Records.find?_insert_self absent
  rw [named] at known
  refine ⟨g.enrol n, known, ?_, ⟨?_, Counter.toNat_succ hs⟩, ⟨?_, Counter.toNat_succ hc⟩⟩
  · rw [enrol, Node.restrict_removed]
  · rw [enrol, Node.restrict_id]
  · rw [enrol, Node.restrict]
    split <;> rfl

end Group

namespace Registry

variable {r r' : Registry} {g : Group} {n : Node}

theorem assigns_register (h : r.register n = (.ok g, r')) (absent : r.current.find? n.name = none) :
    ∃ m, r.current.Assigns n g m := by
  cases registering n r with
  | new _ eq =>
    obtain ⟨rfl, updated⟩ := update_eq_ok_iff.mp (eq.symm.trans h)
    exact Group.assigns_add updated.edited
  | refused known _ _ => cases absent.symm.trans known
  | back known _ _ _ _ => cases absent.symm.trans known
  | moved known _ _ _ _ _ => cases absent.symm.trans known

end Registry

section Alike

variable {version : UInt32} {written : FormatVersion} {n n' : Node} {line line' : String}

theorem Turn.join_claim (version : UInt32) (n : Node) (held : Option String) (r : Registry) :
    join version n.claim held r = join version n held r := rfl

variable (parsed : Request.parse line = .ok (.join version written n))
  (parsed' : Request.parse line' = .ok (.join version written n')) (alike : n.claim = n'.claim)
include parsed parsed' alike

theorem Service.answer_alike (s : Service) (now : String) (c : Connection) (r : Registry) :
    s.answer now line c r = s.answer now line' c r := by
  have same : Turn.join version n c.held r = Turn.join version n' c.held r := by
    rw [← Turn.join_claim, alike, Turn.join_claim]
  rw [answer, answer, parsed, parsed']
  simp only [same]

theorem Session.take_alike (service : Service) (now : String) (s : Session) :
    s.take service now (.ok line) = s.take service now (.ok line') := by
  rw [take.eq_def, take.eq_def]
  simp only [service.answer_alike parsed parsed' alike]

theorem Session.takeAll_alike (service : Service) (now : String) (s : Session)
    (taken rest : List (Except AdmissionError String)) :
    s.takeAll service now (taken ++ .ok line :: rest) = s.takeAll service now (taken ++ .ok line' :: rest) := by
  rw [takeAll, takeAll, List.foldl_append, List.foldl_append, List.foldl_cons, List.foldl_cons,
    take_alike parsed parsed' alike]

/-- Bytes that complete the same lines but for alike joins have the same effect and the same outcome. -/
theorem Server.receive_alike {s : Server} {key : String} {c : Connection} (known : s.connections.lookup key = some c)
    {taken rest : List (Except AdmissionError String)} {bytes bytes' : List UInt8} {kept : LineBuffer}
    (completes : c.buffer.receive bytes = (taken ++ .ok line :: rest, kept))
    (completes' : c.buffer.receive bytes' = (taken ++ .ok line' :: rest, kept)) (now : String) :
    s.apply now (.receive key bytes) = s.apply now (.receive key bytes') := by
  have same : (Session.start c s.registry).receive s.service now bytes =
      (Session.start c s.registry).receive s.service now bytes' := by
    rw [Session.receive_of completes, Session.receive_of completes']
    exact Session.takeAll_alike parsed parsed' alike s.service now _ taken rest
  rw [receive_known known, receive_known known, same]

end Alike

/-- A node that is new to the group and is answered by a group has what the group assigns. -/
theorem Session.assigned_of_group {service : Service} {now line : String} {s : Session} {version : UInt32}
    {written format : FormatVersion} {n : Node} {stream : String}
    (parsed : Request.parse line = .ok (.join version written n))
    (answered : (s.take service now (.ok line)).replies = .group format stream :: s.replies)
    (absent : s.registry.current.find? n.name = none) :
    (s.take service now (.ok line)).registry.current.stream = .ok stream ∧
      ∃ m, s.registry.current.Assigns n (s.take service now (.ok line)).registry.current m := by
  obtain ⟨_, _, _, g, r, parsed', registered, -, sent, current⟩ := registered_of_group answered
  cases parsed.symm.trans parsed'
  rw [current]
  exact ⟨sent, Registry.assigns_register registered absent⟩

namespace Server

/-- Whatever has been done to a server and whatever lines have been taken before, let a join come, and think of
another one that differs from it at most in the id, the mark of removal and the change version of its record.
With either of them the session has the same replies, the same end or none, the same group, store and holds.
So have the server and the connection if the lines come in bytes. If the join is answered by a group and there
was no record under the name, the record that is sent has the next id, is not removed and has the change
version of the group, which is the next one. -/
theorem joiner_cannot_forge {s : Server} (used : s.InUse) {now key line line' : String}
    {taken rest : List (Except AdmissionError String)} {log : List Group} {session : Session}
    (midway : s.Midway now key taken (.ok line :: rest) log session) {version : UInt32} {written : FormatVersion}
    {n n' : Node} (parsed : Request.parse line = .ok (.join version written n))
    (parsed' : Request.parse line' = .ok (.join version written n')) (alike : n.claim = n'.claim) :
    let after := session.take s.service now (.ok line)
    after = session.take s.service now (.ok line') ∧
    (∀ c bytes bytes' kept, s.connections.lookup key = some c →
      c.buffer.receive bytes = (taken ++ .ok line :: rest, kept) →
      c.buffer.receive bytes' = (taken ++ .ok line' :: rest, kept) →
      s.apply now (.receive key bytes) = s.apply now (.receive key bytes')) ∧
    ∀ format stream, after.replies = .group format stream :: session.replies →
      session.registry.current.find? n.name = none →
      Group.ofStream stream = .ok after.registry.current ∧
        ∃ m, session.registry.current.Assigns n after.registry.current m := by
  intro after
  refine ⟨Session.take_alike parsed parsed' alike s.service now session, ?_, ?_⟩
  · intro c bytes bytes' kept known completes completes'
    exact receive_alike parsed parsed' alike known completes completes' now
  · intro format stream answered absent
    obtain ⟨sent, assigned⟩ := Session.assigned_of_group parsed answered absent
    have follows := midway.follows.trans (Session.take_follows s.service now session (.ok line))
    have wf := (follows.reachable used.reachable).wellFormed
    exact ⟨Group.ofStream_eq_ok_iff.mpr ⟨wf, sent⟩, assigned⟩

/-- A join like that of the sample's joiner, with an id, a mark of removal and a change version. -/
def forgedLine : String := "JOIN 5 2 00026e3200000007000001680009010000006300"

theorem forged_join_is_no_different :
    joining.InUse ∧ joining.Midway "" "k" [] [.ok joinLine] [] joinSession ∧
    (∃ n n', Request.parse joinLine = .ok (.join 5 .v2 n) ∧ Request.parse forgedLine = .ok (.join 5 .v2 n') ∧
      (n'.id, n'.removed, n'.change) = (7, true, 99)) ∧
    joinSession.take joining.service "" (.ok joinLine) = joinSession.take joining.service "" (.ok forgedLine) ∧
    joining.apply "" (.receive "k" (Line.bytes joinLine)) = joining.apply "" (.receive "k" (Line.bytes forgedLine)) ∧
    ∃ m, Group.sample.Assigns (.joining "n2" .electable "h" 9 none)
      (joinSession.take joining.service "" (.ok joinLine)).registry.current m := by
  have used : joining.InUse := ⟨_, _, _, _, .read Group.read_sample, rfl⟩
  have midway : joining.Midway "" "k" [] [.ok joinLine] [] joinSession :=
    ⟨.make true none, Line.bytes joinLine, rfl, by decide +kernel, rfl, rfl⟩
  have parsed : Request.parse joinLine = .ok (.join 5 .v2 (.joining "n2" .electable "h" 9 none)) := by
    decide +kernel
  have parsed' : Request.parse forgedLine = .ok (.join 5 .v2 ⟨"n2", 7, .electable, "h", 9, none, true, 99⟩) := by
    decide +kernel
  obtain ⟨same, bytes, assigned⟩ := joiner_cannot_forge used midway parsed parsed' rfl
  have answered : (joinSession.take joining.service "" (.ok joinLine)).replies =
      .group .v2 joinedStream :: joinSession.replies := by decide +kernel
  obtain ⟨-, assigns⟩ := assigned .v2 joinedStream answered (by decide +kernel)
  refine ⟨used, midway, ⟨_, _, parsed, parsed', rfl⟩, same, ?_, assigns⟩
  exact bytes (.make true none) _ _ .empty rfl (by decide +kernel) (by decide +kernel)

end Server

end Roster

import Roster.Proofs.Admission.Ledger
import Roster.Proofs.Admission.Refusal

/-!
# Members that come back at another address

A member that joins at another address is moved, unless its name is active. Active it is also by the
hold of the very connection that it joins on: a connection that was admitted under a name cannot move that
name itself, though nobody else holds it.
-/

namespace Roster

namespace Registry

/-- Only a name that is active is said to be. -/
theorem Refuses.active_of_code {r : Registry} {n : Node} {e : UpdateError} (h : r.Refuses n e)
    (code : e.code = "member_active") : r.isActive n.name = true := by
  cases h with
  | active _ _ _ held => exact held
  | removed | retyped | secondary | unsaved => simp [UpdateError.code, EditError.code] at code

/-- A member that nobody holds is moved if its group can be saved and the change version is not at its
end. -/
theorem move_of_saved {r : Registry} {name host : String} {port : UInt16} {n : Node}
    (known : r.current.find? name = some n) (current : n.removed = false) (inactive : r.isActive name = false)
    (next : r.current.change ≠ Counter.last)
    (saves : ∀ g, r.current.move name host port = .ok g → (r.store.save g).1 = .ok ()) :
    ∃ g r' stream, r.current.move name host port = .ok g ∧ r.move name host port = (.ok g, r') ∧
      g.stream = .ok stream ∧
      g.find? name = some { n with host := host, port := port, change := r.current.change + 1 } := by
  obtain ⟨g, moved, found⟩ : ∃ g, r.current.move name host port = .ok g ∧
      g.find? name = some { n with host := host, port := port, change := r.current.change + 1 } :=
    ⟨_, Group.move_eq_ok_iff.mpr ⟨⟨n, known, current⟩, next, rfl⟩, Records.find?_move_self known host port _⟩
  obtain ⟨stream, written⟩ := exists_stream_of_saved (saves g moved)
  let r' : Registry := ⟨g, r.holds, (r.store.save g).2⟩
  have updated : r.Updated (.move name host port) r' := ⟨moved, Prod.ext (saves g moved) rfl, rfl⟩
  refine ⟨g, r', stream, moved, ?_, written, found⟩
  rw [move_of_inactive inactive]
  exact update_eq_ok_iff.mpr ⟨rfl, updated⟩

end Registry

namespace Session

/-- The next line asks to move a member: it is heard, it is a join that passes the gate, and the group
has a member of the name and type at another address. -/
structure AsksToMove (s : Session) (service : Service) (line : String) (n m : Node) : Prop where
  going : s.ended = none
  heard : service.bars s.connection = false
  parsed : ∃ version written, Request.parse line = .ok (.join version written n) ∧
    Gate.check s.registry.current.format version = .ok ()
  known : s.registry.current.find? n.name = some m
  current : m.removed = false
  kind : m.kind = n.kind
  elsewhere : ¬ (m.host = n.host ∧ m.port = n.port)

namespace AsksToMove

variable {s : Session} {service : Service} {now line : String} {n m : Node}

theorem answer (asks : s.AsksToMove service line n m) (now : String) :
    service.answer now line s.connection s.registry = Turn.accept n s.connection.held s.registry := by
  obtain ⟨version, written, parsed, compatible⟩ := asks.parsed
  exact Service.answer_join asks.heard parsed compatible

theorem take (asks : s.AsksToMove service line n m) (now : String) :
    s.take service now (.ok line) = s.apply (Turn.accept n s.connection.held s.registry) := by
  have going : ¬ s.ended.isSome = true := by simp [asks.going]
  rw [take_of_going going, asks.answer]

theorem register (asks : s.AsksToMove service line n m) :
    s.registry.register n = s.registry.move n.name n.host n.port :=
  Registry.register_elsewhere asks.known asks.current asks.kind asks.elsewhere

/-- The member is called active exactly when it is. -/
theorem refused_iff (asks : s.AsksToMove service line n m) (wf : s.registry.current.WellFormed) :
    (∃ message, (s.take service now (.ok line)).replies = .error "member_active" message :: s.replies) ↔
      s.registry.isActive n.name = true := by
  constructor
  · rintro ⟨message, told⟩
    obtain ⟨reply, -⟩ := take_replies told
    rw [asks.answer] at reply
    obtain ⟨-, -, -, e, refuses, told⟩ := Turn.accept_error wf reply
    exact refuses.active_of_code (Reply.error.inj told).1.symm
  · intro active
    have refused := asks.register.trans (Registry.move_of_active active n.host n.port)
    refine ⟨(EditError.active n.name).message, ?_⟩
    rw [asks.take now, Turn.accept_of_refused refused]
    rfl

/-- A member that is not active is moved and sent the group, unless the move itself fails. -/
theorem moved_of_inactive (asks : s.AsksToMove service line n m) (inactive : s.registry.isActive n.name = false)
    (next : s.registry.current.change ≠ Counter.last)
    (saves : ∀ g, s.registry.current.move n.name n.host n.port = .ok g → (s.registry.store.save g).1 = .ok ()) :
    let after := s.take service now (.ok line)
    ∃ g stream, s.registry.current.move n.name n.host n.port = .ok g ∧ after.registry.current = g ∧
      g.stream = .ok stream ∧ after.replies = .group g.format stream :: s.replies ∧
      g.find? n.name = some { m with
        host := n.host, port := n.port, change := s.registry.current.change + 1 } := by
  obtain ⟨g, r', stream, moved, published, written, found⟩ :=
    Registry.move_of_saved asks.known asks.current inactive next saves
  have registered := asks.register.trans published
  obtain ⟨kept, last, sends, -⟩ := Turn.accept_of_admitted s.connection.held registered
  have reply : (Turn.accept n s.connection.held s.registry).reply = some (.group g.format stream) := by
    rw [sends]
    exact Turn.sendGroup_reply_iff.mpr ⟨rfl, written⟩
  refine ⟨g, stream, moved, ?_, written, ?_, found⟩
  · rw [asks.take now, apply]
    exact Turn.current_of_registered _ registered
  · rw [asks.take now, apply, reply]
    rfl

end AsksToMove

end Session

namespace Server

/-- Somebody else than the connection holds the name: a guard of an operator or another connection. -/
def HeldBeside (s : Server) (key name : String) : Prop :=
  (∃ guard, s.guards.lookup guard = some name) ∨
    ∃ other c, other ≠ key ∧ s.connections.lookup other = some c ∧ c.held = some name

theorem Accounted.mem_besideConnection_iff {s : Server} (h : s.Accounted) {key name : String} :
    name ∈ s.besideConnection key ↔ s.HeldBeside key name := by
  have dropped : ∀ other c, (other, c) ∈ drop key s.connections ↔
      other ≠ key ∧ s.connections.lookup other = some c := fun other c => by
    rw [lookup_eq_some_iff h.connections, drop, List.mem_filter, bne_iff_ne, and_comm]
  rw [besideConnection, HeldBeside, List.mem_append]
  refine or_congr ?_ ?_
  · simp [lookup_eq_some_iff h.guards]
  · simp [dropped, and_assoc]

/-- Whatever has been done to a server and whatever lines have been taken before, let a line come that asks
to move a member. It is told that the member is active exactly when the name is held, by the connection
itself or beside it. Where it is not held, the change version is not at its end and the moved group can be
saved, that group is published and sent, with the member at its new address. -/
theorem move_is_refused_iff_held {s : Server} (used : s.InUse) {now key line : String}
    {taken rest : List (Except AdmissionError String)} {log : List Group} {session : Session}
    (midway : s.Midway now key taken (.ok line :: rest) log session) {n m : Node}
    (asks : session.AsksToMove s.service line n m) :
    let after := session.take s.service now (.ok line)
    let held := session.connection.held = some n.name ∨ s.HeldBeside key n.name
    ((∃ message, after.replies = .error "member_active" message :: session.replies) ↔ held) ∧
    (¬ held → session.registry.current.change ≠ Counter.last →
      (∀ g, session.registry.current.move n.name n.host n.port = .ok g →
        (session.registry.store.save g).1 = .ok ()) →
      ∃ g stream, session.registry.current.move n.name n.host n.port = .ok g ∧
        after.registry.current = g ∧ after.replies = .group g.format stream :: session.replies ∧
        Group.ofStream stream = .ok g ∧
        g.find? n.name = some { m with
          host := n.host, port := n.port, change := session.registry.current.change + 1 }) := by
  intro after held
  have wf := (midway.follows.reachable used.reachable).wellFormed
  have active : session.registry.isActive n.name = true ↔ held := by
    have holds := used.accounted.midway_holds midway
    rw [Registry.isActive_iff, holds.mem_iff, List.mem_append, Option.mem_toList,
      used.accounted.mem_besideConnection_iff]
  refine ⟨(asks.refused_iff wf).trans active, fun free next saves => ?_⟩
  have inactive : session.registry.isActive n.name = false := Bool.eq_false_iff.mpr (mt active.mp free)
  obtain ⟨g, stream, moved, current, written, sent, found⟩ := asks.moved_of_inactive inactive next saves
  exact ⟨g, stream, moved, current, sent, Group.ofStream_eq_ok_iff.mpr ⟨wf.move moved, written⟩, found⟩

/-- Nobody beside its one connection holds anything of the sample's server. -/
theorem joining_unheld (name : String) : ¬ joining.HeldBeside "k" name := by
  rintro (⟨guard, held⟩ | ⟨other, c, apart, known, -⟩)
  · cases held
  · have one : joining.connections = [("k", .make true none)] := rfl
    rw [one, List.lookup_cons, beq_eq_false_iff_ne.mpr apart] at known
    cases known

/-- The sample's member, at another port. -/
def relocatedLine : String := "JOIN 5 2 00026e3100000000010002646200080000000000" ++ "00"

theorem unheld_member_is_moved :
    let after := (asking relocatedLine).take joining.service "" (.ok relocatedLine)
    joining.InUse ∧ joining.Midway "" "k" [] [.ok relocatedLine] [] (asking relocatedLine) ∧
      ∃ g stream, after.replies = [.group g.format stream] ∧ Group.ofStream stream = .ok g ∧
        g.find? "n1" = some ⟨"n1", 1, .monitor, "db", 8, some "é", false, 2⟩ := by
  intro after
  have used : joining.InUse := ⟨_, _, _, _, .read Group.read_sample, rfl⟩
  have midway : joining.Midway "" "k" [] [.ok relocatedLine] [] (asking relocatedLine) :=
    ⟨.make true none, Line.bytes relocatedLine, rfl, by decide +kernel, rfl, rfl⟩
  have asks : (asking relocatedLine).AsksToMove joining.service relocatedLine
      (.joining "n1" .monitor "db" 8 none) ⟨"n1", 1, .monitor, "db", 7, some "é", false, 1⟩ :=
    ⟨rfl, rfl, ⟨5, .v2, by decide +kernel, by decide +kernel⟩, by decide +kernel, rfl, rfl, by decide⟩
  have free : ¬ ((asking relocatedLine).connection.held = some "n1" ∨ joining.HeldBeside "k" "n1") := by
    rintro (own | beside)
    · cases own
    · exact joining_unheld "n1" beside
  have saves : ∀ g, (asking relocatedLine).registry.current.move "n1" "db" 8 = .ok g →
      ((asking relocatedLine).registry.store.save g).1 = .ok () := by
    have moved : (asking relocatedLine).registry.current.move "n1" "db" 8 = .ok { Group.sample with
        change := 2, records := Records.empty.insert ⟨"n1", 1, .monitor, "db", 8, some "é", false, 2⟩ } := by
      decide +kernel
    intro g is
    cases moved.symm.trans is
    decide +kernel
  obtain ⟨g, stream, -, -, sent, read, found⟩ :=
    (move_is_refused_iff_held used midway asks).2 free (by decide +kernel) saves
  exact ⟨used, midway, g, stream, sent, read, found⟩

/-- The sample's joiner, at another port than before. -/
def rejoinedLine : String := "JOIN 5 2 00026e320000000000000168000a000000000000"

/-- The sample's connection when it has joined and asks to join again. -/
def rejoining : Session :=
  ((Session.start (.make true none) joining.registry).got (Line.bytes joinLine ++ Line.bytes rejoinedLine)).takeAll
    joining.service "" [.ok joinLine]

/-- The member is held by nobody but the connection that asks to move it, and is not moved. -/
theorem own_hold_prevents_move :
    joining.InUse ∧ (∃ log, joining.Midway "" "k" [.ok joinLine] [.ok rejoinedLine] log rejoining) ∧
      rejoining.AsksToMove joining.service rejoinedLine (.joining "n2" .electable "h" 10 none)
        ⟨"n2", 2, .electable, "h", 9, none, false, 2⟩ ∧
      ¬ joining.HeldBeside "k" "n2" ∧ rejoining.registry.current.change ≠ Counter.last ∧
      (∀ g, rejoining.registry.current.move "n2" "h" 10 = .ok g → (rejoining.registry.store.save g).1 = .ok ()) ∧
      (rejoining.take joining.service "" (.ok rejoinedLine)).replies =
        .error "member_active" "node n2 is still active; deactivate or remove it first" :: rejoining.replies := by
  have lines : (Session.start (.make true none) joining.registry).lines
      (Line.bytes joinLine ++ Line.bytes rejoinedLine) = [.ok joinLine] ++ [.ok rejoinedLine] := by decide +kernel
  have moved : rejoining.registry.current.move "n2" "h" 10 = .ok { Group.sample with
      change := 3, sequence := 2, records := Group.sample.records.insert
        ⟨"n2", 2, .electable, "h", 10, none, false, 3⟩ } := by decide +kernel
  refine ⟨⟨_, _, _, _, .read Group.read_sample, rfl⟩, ⟨_, .make true none, _, rfl, lines, rfl, rfl⟩,
    ⟨by decide +kernel, by decide +kernel, ⟨5, .v2, by decide +kernel, by decide +kernel⟩, by decide +kernel, rfl,
      rfl, by decide⟩, joining_unheld "n2", by decide +kernel, ?_, by decide +kernel⟩
  intro g is
  cases moved.symm.trans is
  decide +kernel

end Server

end Roster

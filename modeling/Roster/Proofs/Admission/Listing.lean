import Roster.Proofs.Admission.Delivery
import Roster.Proofs.Admission.Join
import Roster.Proofs.Admission.Reply

/-!
# Groups that a server hands out

A joiner accepts a group that has a record under its name, and does not look at the record. What a
server hands out does better: it lists the joiner as a current member of its type. Nothing that a
server sends otherwise is read as a group.
-/

namespace Roster

/-- A current member of the group has the name and the type. -/
def Group.Lists (g : Group) (name : String) (kind : NodeType) : Prop :=
  ∃ n, g.find? name = some n ∧ n.removed = false ∧ n.kind = kind

theorem Group.Admits.lists {g g' : Group} {n : Node} (h : g.Admits n g') : g'.Lists n.name n.kind := by
  obtain ⟨m, known, current, kind, -⟩ := h.member
  exact ⟨m, known, current, kind⟩

namespace Reply

theorem readGroup_of_word {w : String} (word : IsWord w) (other : w ≠ "GROUP") (name rest : String)
    (g : Group) : readGroup name (Line.heard (w ++ (" " ++ rest))) ≠ .ok g := by
  intro read
  rw [Line.heard_append (Line.plain_of_isWord word), Line.heard_append Line.plain_space, readGroup,
    cut_append word] at read
  simp only [if_neg other] at read
  split_ifs at read

/-- Only a group is read as one. -/
theorem exists_group_of_readGroup {reply : Reply} {name : String} {g : Group}
    (read : readGroup name (Line.heard reply.line) = .ok g) : ∃ format stream, reply = .group format stream := by
  cases reply with
  | group format stream => exact ⟨format, stream, rfl⟩
  | incompatible verdict =>
    rw [line_incompatible] at read
    exact absurd read (readGroup_of_word isWord_incompatible (by decide) name _ g)
  | error code message =>
    rw [line_error] at read
    exact absurd read (readGroup_of_word isWord_error (by decide) name _ g)
  | status report =>
    have line : (Reply.status report).line = "STATUS" ++ (" " ++ report.toJson.compact) := by
      have kind : "STATUS " = "STATUS" ++ " " := by decide
      show "STATUS " ++ report.toJson.compact = _
      rw [kind, String.append_assoc]
    rw [line] at read
    exact absurd read (readGroup_of_word (by decide) (by decide) name _ g)

end Reply

/-- A joiner that is sent no more than one reply has heard that reply, if it has heard anything. -/
theorem Joiner.heard_of_expectReply {reply? : Option Reply} {heard : String}
    (received : (expectReply (.ofArrivals
      [.bytes (reply?.toList.flatMap fun reply => Line.bytes reply.line)])).1 = .ok heard) :
    ∃ reply, reply? = some reply ∧ heard = Line.heard reply.line := by
  cases reply? with
  | none =>
    have silent : (expectReply (.ofArrivals [.bytes []])).1 = .error (.protocol .closedBeforeReply) := by
      decide +kernel
    cases silent.symm.trans received
  | some reply =>
    rw [Option.toList_some, List.flatMap_singleton] at received
    have something : Line.bytes reply.line ≠ [] := by simp [Line.bytes]
    have gives : (Wire.ofArrivals [.bytes (Line.bytes reply.line)]).Gives [Line.bytes reply.line] :=
      ⟨rfl, List.forall_mem_singleton.mpr something⟩
    refine ⟨reply, rfl, ?_⟩
    rcases expectReply_cases gives List.flatten_singleton with whole | ⟨-, long⟩
    · exact Except.ok.inj (received.symm.trans whole)
    · cases received.symm.trans long

/-- A join that is answered by what its joiner reads as a group has been admitted to that group. -/
theorem Service.answer_lists {s : Service} {now line : String} {c : Connection} {r : Registry}
    {others : List String} {version : UInt32} {written : FormatVersion} {n : Node} {reply : Reply} {g : Group}
    (reachable : r.current.Reachable) (holds : r.holds.names.Perm (c.held.toList ++ others))
    (parsed : Request.parse line = .ok (.join version written n))
    (told : (s.answer now line c r).reply = some reply)
    (read : Reply.readGroup n.name (Line.heard reply.line) = .ok g) : g.Lists n.name n.kind := by
  obtain ⟨format, stream, rfl⟩ := Reply.exists_group_of_readGroup read
  obtain ⟨version', written', n', parsed', -, admits, same, sends, -⟩ := answer_sound holds told
  cases parsed.symm.trans parsed'
  have after : (s.answer now line c r).registry.current.Reachable :=
    (answer_follows s now line c r).reachable reachable
  obtain ⟨m, known, -⟩ := admits.member
  rw [← same, Line.heard_plain (Reply.plain_group sends),
    Reply.readGroup_group after.wellFormed sends (Option.isSome_of_eq_some known)] at read
  cases read
  exact admits.lists

namespace Server

variable {s : Server} {now key : String} {trusted : Bool} {version : UInt32} {node : Node} {g : Group}

theorem InUse.run (used : s.InUse) (actions : List Action) : (s.run actions).InUse := by
  obtain ⟨service, group, store, before, reachable, rfl⟩ := used
  exact ⟨service, group, store, before ++ actions, reachable, List.foldl_append.symm⟩

theorem lookup_connect (s : Server) (now key : String) (trusted : Bool) (peer : Option SocketAddress) :
    (s.act (.event now (.connect key trusted peer))).connections.lookup key = some (.make trusted peer) :=
  lookup_put_self key _ _

/-- A join is heard on a connection of its own, as whatever the answer to its line says. -/
theorem heard_of_join (joined : (s.join now key trusted version node).1 = .ok g) :
    ∃ format written buffer reply,
      let opened := s.act (.event now (.connect key trusted none))
      (Request.join version format node).line = .ok written ∧
        (opened.service.answer now written ⟨trusted, none, buffer, none⟩ opened.registry).reply = some reply ∧
        Reply.readGroup node.name (Line.heard reply.line) = .ok g := by
  have known := s.lookup_connect now key trusted none
  rw [join] at joined
  simp only at joined
  split at joined
  · cases joined
  · rename_i written announced
    obtain ⟨request, announce, line⟩ := bind_eq_ok_iff.mp announced
    have line := mapError_eq_ok_iff.mp line
    obtain ⟨format, rfl⟩ : ∃ format, request = .join version format node := by
      rw [Request.announce] at announce
      split at announce
      · cases announce
        exact ⟨_, rfl⟩
      · cases announce
    obtain ⟨plain, short⟩ := Request.plain_line line
    have whole : (Connection.make trusted none).buffer.toList ++ Line.bytes written =
        Utf8.encode written ++ [Line.newline] := rfl
    obtain ⟨buffer, taken⟩ := receive_ended known whole (Line.newline_free_of_plain plain) short now
    rw [Line.text_plain plain, Session.take_start] at taken
    obtain ⟨heard, received, read⟩ := bind_eq_ok_iff.mp joined
    have sent := congrArg (fun done => done.1.bytes) taken
    simp only [outcome_settle, Session.replies_apply_start] at sent
    have received : (Joiner.expectReply (.ofArrivals
        [.bytes ((s.act (.event now (.connect key trusted none))).apply now
          (.receive key (Line.bytes written))).1.bytes])).1 = .ok heard := received
    rw [sent] at received
    obtain ⟨reply, told, rfl⟩ := Joiner.heard_of_expectReply received
    exact ⟨format, written, buffer, reply, line, told, read⟩

/-- What a server in use hands out lists the joiner as a current member of its type. -/
theorem InUse.join_lists (used : s.InUse) (joined : (s.join now key trusted version node).1 = .ok g) :
    g.Lists node.name node.kind := by
  obtain ⟨format, written, buffer, reply, line, told, read⟩ := heard_of_join joined
  have opened : (s.act (.event now (.connect key trusted none))).InUse :=
    used.run [.event now (.connect key trusted none)]
  have holds := opened.accounted.connection_holds (s.lookup_connect now key trusted none)
  rw [← node.restrict_name format] at read
  have lists := Service.answer_lists opened.reachable holds (Request.parse_line line) told read
  rwa [Node.restrict_name, Node.restrict_kind] at lists

end Server

end Roster

import Roster.Proofs.Admission.Dialogue
import Roster.Proofs.Admission.Framing
import Roster.Proofs.Admission.Listing
import Roster.Proofs.Admission.Overlong

/-!
# Fetching a group

A server looks at no more of a request than the limit of a line and a block, but nothing bounds what it
sends. A joiner gets its reply, however it is cut, exactly if the reply is within the limit; one that is
above the limit by a block is never heard. So a group can grow until no node can join it.
-/

namespace Roster

theorem Line.size_of_text {bytes : List UInt8} {s : String} (h : text bytes = .ok s) :
    Utf8.size s ≤ bytes.length := by
  rw [text] at h
  split at h
  · rename_i decoded
    cases h
    rw [← Utf8.length_encode, Utf8.encode_of_decode? decoded, content]
    split
    · rw [List.length_dropLast]
      omega
    · exact Nat.le_refl _
  · cases h

namespace LineBuffer

variable {b : LineBuffer}

/-- Of a line no more is kept than the limit and a block. -/
def Bounded (b : LineBuffer) : Prop := b.toList.length < Line.limit + Line.block

theorem Bounded.receiveOnto {done : List (Except AdmissionError String)} {input : List UInt8} (h : b.Bounded) :
    (receiveOnto done b input).2.Bounded ∧ ∀ text, .ok text ∈ (receiveOnto done b input).1 →
      .ok text ∈ done ∨ Utf8.size text < Line.limit + Line.block := by
  fun_induction LineBuffer.receiveOnto done b input with
  | case1 done b input bytes rest found ih =>
    obtain ⟨split, -⟩ := step_line found
    have size := congrArg List.length split
    rw [List.length_append, List.length_cons] at size
    have short : b.toList.length < Line.limit + Line.block := h
    obtain ⟨kept, bounded⟩ := ih (show rest.toList.length < _ by omega)
    refine ⟨kept, fun text mem => ?_⟩
    rcases bounded text mem with here | small
    · rcases List.mem_cons.mp here with line | before
      · have le := Line.size_of_text line.symm
        exact Or.inr (by omega)
      · exact Or.inl before
    · exact Or.inr small
  | case2 done b input same found =>
    refine ⟨show same.toList.length < _ from toList_of_tooLong found ▸ h, fun text mem => Or.inl ?_⟩
    simpa using mem
  | case3 done b same found =>
    refine ⟨show same.toList.length < _ from (step_starved found).1 ▸ h, fun text mem => Or.inl ?_⟩
    exact List.mem_reverse.mp mem
  | case4 done b same found byte more ih =>
    obtain ⟨toList, -, short⟩ := step_starved found
    refine ih ?_
    have block : 0 < Line.block := by decide
    rw [Bounded, toList_feed, toList, List.length_append, List.length_cons, List.length_take]
    omega

end LineBuffer

namespace Server

variable {s : Server} {key : String}

/-- The connections keep bounded parts of lines. -/
def Bounded (s : Server) : Prop := ∀ key c, s.connections.lookup key = some c → c.buffer.Bounded

theorem Bounded.act (h : s.Bounded) (action : Action) : (s.act action).Bounded := by
  intro key c known
  rcases act_connection action known with same | ⟨now, trusted, peer, -, rfl⟩ |
    ⟨now, bytes, before, -, earlier, rfl⟩
  · exact h key c same
  · exact (by decide : (0 : Nat) < Line.limit + Line.block)
  · rw [Session.receive_eq, Session.takeAll_buffer]
    exact (h key before earlier).receiveOnto.1

theorem Bounded.run (h : s.Bounded) (actions : List Action) : (s.run actions).Bounded := by
  induction actions generalizing s with
  | nil => exact h
  | cons action rest ih => exact ih (h.act action)

theorem InUse.bounded (used : s.InUse) : s.Bounded := by
  obtain ⟨service, group, store, actions, -, rfl⟩ := used
  have start : (make service (.make group store)).Bounded := by
    intro key c known
    cases known
  exact start.run actions

/-- What is answered is a bounded request. -/
theorem Bounded.of_mem_dialogue (h : s.Bounded) {actions : List Action} {request : String} {reply : Reply}
    (mem : (request, reply) ∈ s.dialogue key actions) : Utf8.size request < Line.limit + Line.block := by
  induction actions generalizing s with
  | nil => cases mem
  | cons action rest ih =>
    rw [dialogue, List.mem_append] at mem
    rcases mem with here | later
    · obtain ⟨now, bytes, c, -, known, turn⟩ := received_of_mem_exchange here
      have asked := (Session.dialogue_in_order _ _ _ _).1.mem (List.mem_map_of_mem turn)
      exact ((h key c known).receiveOnto.2 request asked).resolve_left List.not_mem_nil
    · exact ih (h.act action) later

end Server

/-- A group that answers a request is the one that is published then. -/
theorem Service.published_of_group {s : Service} {now line : String} {c : Connection} {r : Registry}
    {format : FormatVersion} {stream : String}
    (reply : (s.answer now line c r).reply = some (.group format stream)) :
    (s.answer now line c r).registry.current.format = format ∧
      (s.answer now line c r).registry.current.stream = .ok stream := by
  obtain ⟨-, -, n, g, after, -, -, -, registered, format, written, eq⟩ := answer_group reply
  obtain ⟨kept, r', sends, same, -⟩ := Turn.accept_of_admitted c.held registered
  obtain ⟨-, current, -⟩ := Registry.register_admits registered
  rw [eq, sends, Turn.sendGroup_registry, same, current]
  exact ⟨format, written⟩

namespace Joiner

variable {w : Wire} {chunks : List (List UInt8)} {reply : String}

/-- What comes of a reply, however it arrives. -/
def Gets (reply : String) (result : Except AdmissionError String) : Prop :=
  ∀ w chunks, Wire.Gives w chunks → chunks.flatten = Line.bytes reply → (expectReply w).1 = result

theorem expectReply_call (w : Wire) : (expectReply w).1 = (LineBuffer.empty.call w 0).bind fun line =>
    line.elim (.error (.protocol .closedBeforeReply)) .ok := expectReply_fst w

/-- A reply that is above the limit by a block is not heard. -/
theorem gets_far (plain : Line.Plain reply) (far : Line.limit + Line.block ≤ (Line.bytes reply).length) :
    Gets reply (.error .lineTooLong) := by
  intro w chunks gives answered
  obtain ⟨reads, delivers, same⟩ := gives.exists_delivers (show 0 < Line.block by decide)
  rw [Line.length_bytes] at far
  rcases LineBuffer.call_first plain delivers (same.trans answered) with ⟨-, told⟩ | ⟨none, -⟩
  · rw [expectReply_call, told]
    rfl
  · have whole : reads.flatten.length = Utf8.size reply + 1 := by
      rw [same, answered, Line.length_bytes]
    obtain ⟨front, begins, reached, soon⟩ := Line.exists_read_end delivers.small
      (show Line.limit ≤ reads.flatten.length by omega)
    exact absurd ⟨front, begins, by omega, by omega⟩ none

/-- A reply is heard however it is cut exactly if it is within the limit. Byte by byte, the limit is
reached in front of the newline. -/
theorem gets_iff (plain : Line.Plain reply) : Gets reply (.ok reply) ↔ (Line.bytes reply).length ≤ Line.limit := by
  rw [Line.length_bytes]
  constructor
  · intro heard
    by_contra long
    let chunks := (Line.bytes reply).map fun byte => [byte]
    have single : ∀ bytes : List UInt8, (bytes.map fun byte => [byte]).flatten = bytes := List.flatMap_singleton'
    have gives : (Wire.ofArrivals (chunks.map .bytes)).Gives chunks := by
      refine ⟨rfl, fun chunk mem => ?_⟩
      obtain ⟨byte, -, rfl⟩ := List.mem_map.mp mem
      exact List.cons_ne_nil byte []
    have small : ∀ chunk ∈ chunks, chunk.length ≤ Line.block := by
      intro chunk mem
      obtain ⟨byte, -, rfl⟩ := List.mem_map.mp mem
      exact (by decide : 1 ≤ Line.block)
    have answered : chunks.flatten = Line.bytes reply := single _
    rcases LineBuffer.call_first plain (gives.delivers small) answered with ⟨-, told⟩ | ⟨none, -⟩
    · have got := heard _ chunks gives answered
      rw [expectReply_call, told] at got
      cases got
    · have stop : (chunks.take Line.limit).flatten.length = Line.limit := by
        rw [← List.map_take, single, List.length_take, Line.length_bytes]
        omega
      exact absurd ⟨chunks.take Line.limit, List.take_prefix _ _, by omega, by omega⟩ none
  · intro short w chunks gives answered
    rw [expectReply_eq gives answered (Nat.lt_of_succ_le short), Line.heard_plain plain]

end Joiner

namespace Server

/-- Let a server have been used in any way, and let anything be done with it. What it sends on a
connection is the replies to the requests that it answers there, and these requests are bounded. A reply
fits into a line unless something makes it too long: the published group or the active members, a first
word of the request that nearly fills a line, or a text of a group that does not fit into its field. A
joiner gets a group's reply, however it is cut, exactly if the group is light enough, and one that is too
heavy by a block it gets in no way. -/
theorem replies_fit_iff {s : Server} (used : s.InUse) (key : String) (actions : List Action) :
    s.sent key actions = (s.dialogue key actions).flatMap (fun turn => Line.bytes turn.2.line) ∧
      ∀ request reply, (request, reply) ∈ s.dialogue key actions →
        Utf8.size request < Line.limit + Line.block ∧
        ∃ now c r, Group.Reachable (Registry.current r) ∧
          let answer := s.service.answer now request c r
          answer.reply = some reply ∧
          ((Line.bytes reply.line).length ≤ Line.limit ↔ ¬ r.Overlong request reply) ∧
          ∀ format stream, reply = .group format stream →
            let g := answer.registry.current
            g.format = format ∧ g.stream = .ok stream ∧ (Line.bytes reply.line).length = g.weight + 9 ∧
            (Joiner.Gets reply.line (.ok reply.line) ↔ g.weight + 9 ≤ Line.limit) ∧
            (Line.limit + Line.block ≤ g.weight + 9 → Joiner.Gets reply.line (.error .lineTooLong)) := by
  refine ⟨sent_eq_dialogue s key actions, fun request reply mem => ?_⟩
  have bounded := used.bounded.of_mem_dialogue mem
  obtain ⟨now, c, r, reachable, told⟩ := answered_of_mem_dialogue used.reachable mem
  refine ⟨bounded, now, c, r, reachable, told, ?_, ?_⟩
  · have short : request.toList.length < 10 ^ 7 :=
      Nat.lt_trans (Nat.lt_of_le_of_lt (Utf8.length_le_size request) bounded) (by decide)
    rw [← Service.overlong_iff reachable.wellFormed short told]
    exact Nat.not_lt.symm
  · rintro format stream rfl g
    obtain ⟨same, written⟩ : g.format = format ∧ g.stream = .ok stream := Service.published_of_group told
    have plain := Reply.plain_group written
    have length := Reply.length_group written
    rw [same] at plain length
    rw [← length]
    exact ⟨same, written, rfl, Joiner.gets_iff plain, Joiner.gets_far plain⟩

/-- The sample's server sends a joining node a group that it gets. -/
theorem sample_group_is_fetched :
    let actions := [Action.event "" (.receive "k" (Line.bytes joinLine))]
    joining.InUse ∧ (joinLine, Reply.group .v2 joinedStream) ∈ joining.dialogue "k" actions ∧
      Joiner.Gets (Reply.group .v2 joinedStream).line (.ok (Reply.group .v2 joinedStream).line) := by
  intro actions
  have used : joining.InUse := ⟨_, _, _, _, .read Group.read_sample, rfl⟩
  have mem : (joinLine, Reply.group .v2 joinedStream) ∈ joining.dialogue "k" actions := by decide +kernel
  obtain ⟨-, fit⟩ := replies_fit_iff used "k" actions
  obtain ⟨-, now, c, r, -, -, iff, sent⟩ := fit _ _ mem
  obtain ⟨-, -, length, gets, -⟩ := sent _ _ rfl
  exact ⟨used, mem, gets.mpr (length ▸ by decide +kernel)⟩

section

variable {s : Server} {k request : String} {version : UInt32} {format : FormatVersion} {n : Node} {g : Group}
  {after : Registry}

/-- A node that is let in is sent the group. -/
theorem sent_of_joined (fresh : s.connections.lookup k = none)
    (line : (Request.join version format n).line = .ok request)
    (compatible : Gate.check s.registry.current.format version = .ok ())
    (registered : s.registry.register (n.restrict format) = (.ok g, after)) {stream : String}
    (written : g.stream = .ok stream) :
    s.sent k (call k "" true none [("", Line.bytes request)]) = Line.bytes (Reply.group g.format stream).line := by
  obtain ⟨plain, short⟩ := Request.plain_line line
  have cut : ∀ piece ∈ [("", Line.bytes request)], piece.2 ≠ [] :=
    List.forall_mem_singleton.mpr (List.append_ne_nil_of_right_ne_nil _ (List.cons_ne_nil _ _))
  have whole : [("", Line.bytes request)].flatMap Prod.snd = Line.bytes request := List.append_nil _
  obtain ⟨now, buffer, sent, -⟩ := serves_call fresh cut whole plain short "" "" true none
  have heard : s.service.bars ⟨true, none, buffer, none⟩ = false := Bool.and_false _
  obtain ⟨_, _, sends, -⟩ := Turn.accept_of_admitted none registered
  have replied : (s.service.answer now request ⟨true, none, buffer, none⟩ s.registry).reply =
      some (.group g.format stream) := by
    rw [Service.answer_join heard (Request.parse_line line) compatible, sends]
    exact Turn.sendGroup_reply_iff.mpr ⟨rfl, written⟩
  rw [sent, replied, Option.toList_some, List.flatMap_singleton]

end

/-- The longest host that fits into a record. -/
def longHost : String := String.ofList (List.replicate 65535 'h')

def packedNames : List String := ["a", "b", "c", "d", "e", "f", "g", "h", "i"]

/-- A node with that host asks to join. -/
def packing (name : String) : Node := .joining name .electable longHost 1 none

/-- The record that it gets. -/
def packedRecord (name : String) (id : UInt32) : Node := ⟨name, id, .electable, longHost, 1, none, false, id⟩

/-- A group with nine such nodes. -/
def packed : Group where
  name := "orders"
  uuid := Uuid.zero
  format := .v1
  change := 9
  sequence := 9
  records := ⟨List.zipWith packedRecord packedNames [1, 2, 3, 4, 5, 6, 7, 8, 9], by decide⟩

def packedServer : Server := .make ⟨false, ""⟩ (.make packed .empty)

theorem size_longHost : Utf8.size longHost = 65535 := by
  have spelled : longHost.toList = List.replicate 65535 'h' := String.toList_ofList
  have ascii : ∀ c ∈ longHost.toList, c.toNat < 128 := by
    intro c mem
    rw [spelled] at mem
    obtain rfl := List.eq_of_mem_replicate mem
    decide
  exact (Utf8.size_of_ascii ascii).trans ((congrArg List.length spelled).trans List.length_replicate)

theorem reachable_packed : packed.Reachable := by
  have added : (Group.empty "orders" Uuid.zero .v1).addAll (packedNames.map packing) = .ok packed := rfl
  exact GroupEdit.foldlM_reachable (fun n => (GroupEdit.add n).reachable) (.empty _ _ _) added

/-- All records are as long as the first one. -/
theorem packed_records : ∀ n ∈ packed.nodes, Utf8.size n.name = 1 ∧ n.host = longHost ∧ n.software = none := by
  have nodes : packed.nodes = [packedRecord "a" 1, packedRecord "b" 2, packedRecord "c" 3, packedRecord "d" 4,
    packedRecord "e" 5, packedRecord "f" 6, packedRecord "g" 7, packedRecord "h" 8, packedRecord "i" 9] := rfl
  rw [nodes]
  simp only [List.forall_mem_cons, packedRecord, and_true, List.not_mem_nil, false_imp_iff, implies_true]
  decide

theorem weight_of_packed {n : Node} (mem : n ∈ packed.nodes) : n.weight packed.format = 65552 := by
  obtain ⟨name, host, -⟩ := packed_records n mem
  have plain : ¬ packed.format.carriesSoftware = true := by decide
  rw [Node.weight, name, host, size_longHost, if_neg plain]

theorem weight_packed : packed.weight = 1180021 := by
  have name : Utf8.size packed.name = 6 := rfl
  have count : packed.nodes.length = 9 := rfl
  have each : packed.nodes.map (fun n => 1 + 2 * n.weight packed.format) = List.replicate 9 131105 := by
    rw [List.map_congr_left fun n mem => congrArg (1 + 2 * ·) (weight_of_packed mem), List.map_const', count]
  rw [Group.weight, name, each, List.sum_replicate_nat]

theorem writable_packed : packed.Writable packed.format where
  carries := reachable_packed.wellFormed.carries
  count := by decide
  name := (by decide : Utf8.size "orders" ≤ Writer.textLimit)
  records n mem := by
    obtain ⟨name, host, software⟩ := packed_records n mem
    refine ⟨?_, ?_, fun _ s known => ?_⟩
    · rw [Field.Fits, name]
      decide
    · rw [Field.Fits, host, size_longHost]
      decide
    · rw [software] at known
      cases known

/-- A member that joins again as it is stays what it is. -/
theorem register_packed :
    packedServer.registry.register (packing "a") = (.ok packed, packedServer.registry) := by
  have known : packedServer.registry.current.find? (packing "a").name = some (packedRecord "a" 1) := rfl
  have same : ¬ ((packedRecord "a" 1).host ≠ (packing "a").host ∨ (packedRecord "a" 1).port ≠ (packing "a").port) :=
    fun other => other.elim (absurd rfl) (absurd rfl)
  rw [Registry.register, known]
  exact (if_neg Bool.false_ne_true).trans ((if_neg (not_not_intro rfl)).trans (if_neg same))

/-- A server whose group has been made by adding nodes that each fit. A member that joins again sends a
short request and is sent a line that is too long for it, however that arrives. -/
theorem packed_group_cannot_be_fetched :
    packedServer.InUse ∧ ∃ request stream, (Request.join 4 .v1 (packing "a")).line = .ok request ∧
      (Line.bytes request).length ≤ Line.limit ∧
      let sent := packedServer.sent "k" (call "k" "" true none [("", Line.bytes request)])
      sent = Line.bytes (Reply.group .v1 stream).line ∧ Line.limit < sent.length ∧
      Joiner.Gets (Reply.group .v1 stream).line (.error .lineTooLong) := by
  have used : packedServer.InUse := ⟨_, _, _, [], reachable_packed, rfl⟩
  obtain ⟨stream, written⟩ := Group.exists_streamAt_iff.mpr writable_packed
  have fits : (packing "a").Fits .v1 :=
    ⟨(by decide : Utf8.size "a" ≤ Writer.textLimit), Nat.le_of_eq size_longHost, fun _ _ known => nomatch known⟩
  obtain ⟨request, line⟩ : ∃ request, (Request.join 4 .v1 (packing "a")).line = .ok request :=
    ⟨_, Request.line_eq_ok_iff.mpr ⟨_, Node.toToken_eq_ok_iff.mpr ⟨by decide, fits, rfl⟩, rfl⟩⟩
  have sent : packedServer.sent "k" (call "k" "" true none [("", Line.bytes request)]) =
      Line.bytes (Reply.group .v1 stream).line := sent_of_joined rfl line rfl register_packed written
  have short : (Line.bytes request).length ≤ Line.limit := by
    rw [Line.length_bytes, ← Utf8.length_encode]
    exact (Request.plain_line line).2
  have long : (Line.bytes (Reply.group .v1 stream).line).length = 1180030 := by
    have length : (Line.bytes (Reply.group packed.format stream).line).length = packed.weight + 9 :=
      Reply.length_group written
    exact length.trans (congrArg (· + 9) weight_packed)
  have plain : Line.Plain (Reply.group packed.format stream).line := Reply.plain_group written
  have far : Line.limit + Line.block ≤ (Line.bytes (Reply.group .v1 stream).line).length := by
    rw [long]
    decide
  refine ⟨used, request, stream, line, short, sent, ?_, Joiner.gets_far plain far⟩
  rw [sent]
  exact Nat.lt_of_lt_of_le (Nat.lt_add_of_pos_right (by decide)) far

end Server

end Roster

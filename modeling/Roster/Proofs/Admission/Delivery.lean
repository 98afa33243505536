import Roster.Proofs.Admission.Line
import Roster.Proofs.Admission.Story

/-!
# One request on a connection of its own

A peer connects, sends one line in pieces of any size and leaves. The line is answered once, when it
is whole; then everything is as the answer has left it, except that the connection and what it held
are gone.
-/

namespace Roster

namespace Session

variable {s : Session} {service : Service} {now : String}

theorem receive_of {bytes : List UInt8} {lines : List (Except AdmissionError String)} {kept : LineBuffer}
    (got : s.connection.buffer.receive bytes = (lines, kept)) : s.receive service now bytes =
      takeAll service now { s with connection := { s.connection with buffer := kept } } lines := by
  rw [receive, got]
  rfl

theorem take_start (c : Connection) (r : Registry) (text : String) :
    (start c r).take service now (.ok text) = (start c r).apply (service.answer now text c r) := rfl

theorem replies_apply_start (c : Connection) (r : Registry) (turn : Turn) :
    ((start c r).apply turn).replies.reverse = turn.reply.toList := by
  cases reply : turn.reply <;> simp [apply, start, reply]

theorem endInput_eq (s : Session) : ∃ ending, s.endInput = s.finish ending := by
  rw [endInput]
  split
  · exact ⟨_, rfl⟩
  · exact ⟨_, rfl⟩

end Session

namespace Server

/-- The pieces that a peer sends, each at its time. -/
def receipts (key : String) (pieces : List (String × List UInt8)) : List Action :=
  pieces.map fun (now, bytes) => .event now (.receive key bytes)

/-- A peer connects and sends bytes in pieces. -/
def call (key start : String) (trusted : Bool) (peer : Option SocketAddress)
    (pieces : List (String × List UInt8)) : List Action :=
  .event start (.connect key trusted peer) :: receipts key pieces

variable {s : Server} {key : String} {c : Connection}

theorem receive_known (known : s.connections.lookup key = some c) (now : String) (bytes : List UInt8) :
    s.apply now (.receive key bytes) =
      s.settle key ((Session.start c s.registry).receive s.service now bytes) := by
  rw [apply, serve, known]

theorem run_cons (action : Action) (rest : List Action) :
    s.run (action :: rest) = (s.act action).run rest := rfl

/-- What a connection was before it is settled is not kept. -/
theorem settle_put (session : Session) : settle key session
    { s with connections := put key c s.connections } = s.settle key session := by
  simp only [settle]
  cases session.ended with
  | none => simp only [put_put]
  | some ending => simp only [drop_put]

theorem sent_receive (now : String) (bytes : List UInt8) (rest : List Action) :
    s.sent key (.event now (.receive key bytes) :: rest) =
      (s.apply now (.receive key bytes)).1.bytes ++ (s.apply now (.receive key bytes)).2.sent key rest := by
  rw [sent_cons, if_pos (by simp [Action.concerns, Event.connection?])]
  rfl

theorem outcome_settle (session : Session) : (s.settle key session).1.bytes =
    session.replies.reverse.flatMap fun reply => Line.bytes reply.line := rfl

/-- A piece in the middle of a line is kept. -/
theorem receive_begun {bytes : List UInt8} (known : s.connections.lookup key = some c)
    (free : Line.newline ∉ c.buffer.toList ++ bytes)
    (short : (c.buffer.toList ++ bytes).length < Line.limit) (now : String) :
    ∃ kept, kept.toList = c.buffer.toList ++ bytes ∧ s.apply now (.receive key bytes) =
      (.served [] none, { s with connections := put key { c with buffer := kept } s.connections }) := by
  obtain ⟨kept, got, toList⟩ := LineBuffer.receive_unfinished free short
  refine ⟨kept, toList, ?_⟩
  rw [receive_known known, Session.receive_of got]
  rfl

/-- The piece that ends a line lets the line be taken. -/
theorem receive_ended {bytes line : List UInt8} (known : s.connections.lookup key = some c)
    (whole : c.buffer.toList ++ bytes = line ++ [Line.newline]) (free : Line.newline ∉ line)
    (short : line.length < Line.limit) (now : String) :
    ∃ buffer, s.apply now (.receive key bytes) = s.settle key
      (.take s.service now (.start { c with buffer := buffer } s.registry) (Line.text line)) := by
  obtain ⟨buffer, got, -⟩ := LineBuffer.receive_line whole free short
  refine ⟨buffer, ?_⟩
  rw [receive_known known, Session.receive_of got]
  rfl

/-- A line that arrives in pieces is taken when the last of them has come. -/
theorem serves_line {pieces : List (String × List UInt8)} {line : List UInt8}
    (known : s.connections.lookup key = some c) (cut : ∀ piece ∈ pieces, piece.2 ≠ [])
    (begun : Line.newline ∉ c.buffer.toList)
    (whole : c.buffer.toList ++ pieces.flatMap Prod.snd = line ++ [Line.newline])
    (free : Line.newline ∉ line) (short : line.length < Line.limit) :
    ∃ now buffer,
      let session := Session.take s.service now (.start { c with buffer := buffer } s.registry) (Line.text line)
      s.sent key (receipts key pieces) = (s.settle key session).1.bytes ∧
        s.run (receipts key pieces) = (s.settle key session).2 := by
  induction pieces generalizing s c with
  | nil =>
    rw [List.flatMap_nil, List.append_nil] at whole
    exact absurd (whole ▸ List.mem_append_right line List.mem_cons_self) begun
  | cons piece rest ih =>
    obtain ⟨now, bytes⟩ := piece
    obtain ⟨-, later⟩ := List.forall_mem_cons.mp cut
    rw [List.flatMap_cons, ← List.append_assoc] at whole
    rw [receipts, List.map_cons, sent_receive, run_cons, act]
    rcases List.eq_nil_or_concat' (rest.flatMap Prod.snd) with none | ⟨front, last, tail⟩
    · obtain rfl : rest = [] := by
        cases rest with
        | nil => rfl
        | cons piece more => exact absurd (List.append_eq_nil_iff.mp none).1 (later _ List.mem_cons_self)
      rw [none, List.append_nil] at whole
      obtain ⟨buffer, taken⟩ := receive_ended known whole free short now
      rw [taken]
      exact ⟨now, buffer, List.append_nil _, rfl⟩
    · -- something is still to come, so the newline is not in this piece
      rw [tail, ← List.append_assoc] at whole
      obtain ⟨rfl, -⟩ := List.append_inj' whole rfl
      have unfinished : Line.newline ∉ c.buffer.toList ++ bytes :=
        fun mem => free (List.mem_append_left front mem)
      obtain ⟨kept, toList, same⟩ :=
        receive_begun known unfinished (Nat.lt_of_le_of_lt (by simp) short) now
      rw [same]
      have going : kept.toList ++ rest.flatMap Prod.snd =
          c.buffer.toList ++ bytes ++ front ++ [Line.newline] := by
        rw [toList, tail, ← List.append_assoc, whole]
      have heard := ih (s := { s with connections := put key { c with buffer := kept } s.connections })
        (c := { c with buffer := kept }) (lookup_put_self key _ _) later (toList ▸ unfinished) going
      simp only [settle_put] at heard
      exact heard

/-- However its session went, a connection whose peer leaves is gone with what it held. -/
theorem endInput_settle (fresh : s.connections.lookup key = none) (session : Session) :
    ((s.settle key session).2.endInput key).2 =
      { s with registry := session.registry.letGo session.connection.held } := by
  have others := drop_eq_self fresh
  cases ended : session.ended with
  | none =>
    have settled : (s.settle key session).2 =
        { s with registry := session.registry, connections := put key session.connection s.connections } := by
      simp [settle, ended, Session.released]
    obtain ⟨ending, last⟩ := Session.endInput_eq (Session.start session.connection session.registry)
    rw [settled, endInput, serve]
    simp only [lookup_put_self, last]
    simp [settle, Session.finish, Session.start, Session.released, others]
  | some ending =>
    have settled : (s.settle key session).2 =
        { s with registry := session.registry.letGo session.connection.held } := by
      simp [settle, ended, Session.released, others]
    rw [settled, endInput, serve]
    simp only [fresh]

theorem connect_fresh (fresh : s.connections.lookup key = none) (start : String) (trusted : Bool)
    (peer : Option SocketAddress) : s.act (.event start (.connect key trusted peer)) =
      { s with connections := put key (.make trusted peer) s.connections } := by
  simp only [act, apply, connect, endInput, serve, fresh]

/-- A peer that says nothing leaves nothing behind. -/
theorem endInput_connect (fresh : s.connections.lookup key = none) (start finish : String)
    (trusted : Bool) (peer : Option SocketAddress) :
    (s.run (call key start trusted peer [])).act (.event finish (.endInput key)) = s := by
  rw [call, run_cons, connect_fresh fresh]
  exact endInput_settle fresh (Session.start (.make trusted peer) s.registry)

/-- A line on a connection of its own is answered, and nothing is left of the connection. -/
theorem serves_call {text : String} (fresh : s.connections.lookup key = none)
    {pieces : List (String × List UInt8)} (cut : ∀ piece ∈ pieces, piece.2 ≠ [])
    (whole : pieces.flatMap Prod.snd = Line.bytes text) (plain : Line.Plain text)
    (short : (Utf8.encode text).length < Line.limit) (start finish : String) (trusted : Bool)
    (peer : Option SocketAddress) :
    ∃ now buffer,
      let turn := s.service.answer now text ⟨trusted, peer, buffer, none⟩ s.registry
      s.sent key (call key start trusted peer pieces) =
          turn.reply.toList.flatMap (fun reply => Line.bytes reply.line) ∧
        (s.run (call key start trusted peer pieces)).act (.event finish (.endInput key)) =
          { s with registry := turn.registry.letGo turn.held } := by
  have connected := connect_fresh fresh start trusted peer
  have known := lookup_put_self key (Connection.make trusted peer) s.connections
  obtain ⟨now, buffer, sent, run⟩ :=
    serves_line (s := { s with connections := put key (.make trusted peer) s.connections }) known cut
      (by simp [Connection.make, LineBuffer.toList, LineBuffer.empty]) whole
      (Line.newline_free_of_plain plain) short
  rw [settle_put, Line.text_plain plain, Session.take_start] at sent run
  refine ⟨now, buffer, ?_, ?_⟩
  · have silent : (s.outcome (.event start (.connect key trusted peer))).bytes = [] := rfl
    rw [call, sent_cons, silent, ite_self, connected, List.nil_append, sent, outcome_settle]
    exact congrArg _ (Session.replies_apply_start _ _ _)
  · rw [call, run_cons, connected, run]
    exact endInput_settle fresh _

end Server

end Roster

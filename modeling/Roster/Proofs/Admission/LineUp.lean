import Roster.Proofs.Admission.Dialogue

/-!
# Requests and replies in step

However the lines of a connection arrive, those that are answered are the first of them. Who reads
the bytes that come back line by line therefore finds the reply to the n-th request on the n-th
line, as long as no reply breaks.
-/

namespace Roster

namespace Server

variable {s : Server} {key : String} {c : Connection}

theorem lookup_serve_of_ne {other : String} (apart : key ≠ other) (work : Session → Session) :
    (s.serve other work).2.connections.lookup key = s.connections.lookup key := by
  rw [serve]
  cases s.connections.lookup other with
  | none => rfl
  | some c =>
    simp only [settle]
    cases (work (Session.start c s.registry)).ended with
    | none => exact lookup_put_of_ne apart _ _
    | some ending => exact lookup_drop_of_ne apart _

/-- How a connection can come out of an action that is not its start. -/
inductive Going (s : Server) (key : String) (c : Connection) (action : Action) : Prop
  | apart (same : (s.act action).connections.lookup key = some c) (silent : s.exchange key action = [])
      (nothing : action.input key = [])
  | fed {now : String} {bytes : List UInt8} (receives : action = .event now (.receive key bytes))
  | cut (gone : (s.act action).connections.lookup key = none) (silent : s.exchange key action = [])

theorem going (known : s.connections.lookup key = some c) {action : Action}
    (old : action.connects key = false) : Going s key c action := by
  cases action with
  | update edit => exact .apart known rfl rfl
  | event now event =>
    cases event with
    | activate guard name =>
      refine .apart ?_ rfl rfl
      simp only [act, apply, activate]
      split <;> exact known
    | release guard =>
      refine .apart ?_ rfl rfl
      simp only [act, apply, release]
      split <;> exact known
    | connect other trusted peer =>
      have apart : key ≠ other := Ne.symm (beq_eq_false_iff_ne.mp old)
      refine .apart ?_ rfl rfl
      exact (lookup_put_of_ne apart _ _).trans ((lookup_serve_of_ne apart _).trans known)
    | receive other bytes =>
      by_cases same : other = key
      · subst same
        exact .fed rfl
      · exact .apart ((lookup_serve_of_ne (Ne.symm same) _).trans known) (if_neg same) (if_neg same)
    | endInput other =>
      by_cases same : other = key
      · subst same
        exact .cut (lookup_endInput s other) rfl
      · exact .apart ((lookup_serve_of_ne (Ne.symm same) _).trans known) rfl rfl
    | close other =>
      by_cases same : other = key
      · subst same
        refine .cut ?_ rfl
        simp only [act, apply, serve, known]
        exact lookup_drop other _
      · exact .apart ((lookup_serve_of_ne (Ne.symm same) _).trans known) rfl rfl
    | _ => exact .apart known rfl rfl

/-- A connection that gets bytes takes the lines that they complete. It goes on with the bytes that
are left, or it is gone. -/
theorem fed (known : s.connections.lookup key = some c) (now : String) {bytes last : List UInt8}
    {lines : List (List UInt8)}
    (cut : pieces (· == Line.newline) (c.buffer.toList ++ bytes) = lines ++ [last]) :
    let action := Action.event now (.receive key bytes)
    let requests := (s.exchange key action).map fun turn => .ok turn.1
    (∃ c', (s.act action).connections.lookup key = some c' ∧ c'.buffer.toList = last ∧
        requests = lines.map Line.text) ∨
      (s.act action).connections.lookup key = none ∧ requests <+: lines.map Line.text := by
  intro action requests
  let session := (Session.start c s.registry).got bytes
  let read := (Session.start c s.registry).lines bytes
  have exchanged : s.exchange key action = session.dialogue s.service now read :=
    exchange_receive known now bytes
  have settled : s.act action = (s.settle key (session.takeAll s.service now read)).2 := by
    rw [act, receive_known known, Session.receive_eq]
  have gone : ∀ ending, (session.takeAll s.service now read).ended = some ending →
      (s.act action).connections.lookup key = none := by
    intro ending ended
    rw [settled]
    simp only [settle, ended]
    exact lookup_drop key _
  rcases LineBuffer.receiveOnto_cases cut with ⟨kept, all, left⟩ | ⟨-, ahead, kept, begins, some⟩
  · have taken : read = lines.map Line.text := congrArg Prod.fst all
    obtain ⟨front, whole⟩ := session.dialogue_in_order s.service now read
    rw [← exchanged] at front whole
    cases ended : (session.takeAll s.service now read).ended with
    | some ending => exact Or.inr ⟨gone ending ended, taken ▸ front⟩
    | none =>
      refine Or.inl ⟨(session.takeAll s.service now read).connection, ?_, ?_, taken ▸ whole ended⟩
      · rw [settled]
        simp only [settle, ended]
        exact lookup_put_self key _ _
      · rw [Session.takeAll_buffer, ← left]
        exact congrArg LineBuffer.toList (congrArg Prod.snd all)
  · -- one of the lines is too long
    have taken : read = ahead.map Line.text ++ [.error .lineTooLong] := congrArg Prod.fst some
    obtain ⟨front, last⟩ := session.dialogue_before_error s.service now (ahead.map Line.text) .lineTooLong
    rw [← taken, ← exchanged] at front
    rw [← taken] at last
    obtain ⟨ending, ended⟩ := Option.ne_none_iff_exists'.mp last
    exact Or.inr ⟨gone ending ended, front.trans (begins.map _)⟩

/-- However the bytes of a connection arrive, the requests that are answered are the first of the
lines between their newlines. -/
theorem dialogue_in_order (known : s.connections.lookup key = some c) {actions : List Action}
    (old : ∀ action ∈ actions, action.connects key = false) {lines : List (List UInt8)} {last : List UInt8}
    (cut : pieces (· == Line.newline) (c.buffer.toList ++ actions.flatMap (Action.input key)) =
      lines ++ [last]) :
    (s.dialogue key actions).map (fun turn => .ok turn.1) <+: lines.map Line.text := by
  have split : ∀ bytes, ∃ front piece, pieces (· == Line.newline) bytes = front ++ [piece] := by
    intro bytes
    rcases List.eq_nil_or_concat' (pieces (· == Line.newline) bytes) with none | some
    · exact absurd none (pieces_ne_nil _ _)
    · exact some
  induction actions generalizing s c lines with
  | nil => exact List.nil_prefix
  | cons action rest ih =>
    obtain ⟨first, later⟩ := List.forall_mem_cons.mp old
    rw [List.flatMap_cons] at cut
    rw [dialogue]
    cases going known first with
    | apart same silent nothing =>
      rw [nothing, List.nil_append] at cut
      rw [silent, List.nil_append]
      exact ih same later cut
    | cut gone silent =>
      rw [silent, dialogue_absent gone later]
      exact List.nil_prefix
    | @fed now bytes receives =>
      subst receives
      have input : Action.input key (.event now (.receive key bytes)) = bytes := if_pos rfl
      obtain ⟨front, begun, here⟩ := split (c.buffer.toList ++ bytes)
      obtain ⟨more, tail, there⟩ := split (begun ++ rest.flatMap (Action.input key))
      rw [input, ← List.append_assoc, pieces_append here, there, ← List.append_assoc] at cut
      obtain ⟨rfl, same⟩ := List.append_inj' cut rfl
      obtain rfl := List.singleton_inj.mp same
      rw [List.map_append, List.map_append]
      rcases fed known now here with ⟨c', known', left, all⟩ | ⟨gone, some⟩
      · rw [all, List.prefix_append_right_inj]
        exact ih known' later (left ▸ there)
      · rw [dialogue_absent gone later, List.map_nil, List.append_nil]
        exact some.trans (List.prefix_append _ _)

/-- Lines are found again between the newlines behind them exactly if none of them has one inside. -/
theorem pieces_lines_iff {lines : List (List UInt8)} :
    pieces (· == Line.newline) (lines.flatMap (· ++ [Line.newline])) = lines ++ [[]] ↔
      ∀ line ∈ lines, Line.newline ∉ line := by
  constructor
  · intro cut line mem
    have here : line ∈ pieces (· == Line.newline) (lines.flatMap (· ++ [Line.newline])) := by
      rw [cut]
      exact List.mem_append_left _ mem
    exact LineBuffer.separates_iff.mpr (free_of_mem_pieces here)
  · intro free
    induction lines with
    | nil => rfl
    | cons line rest ih =>
      obtain ⟨first, later⟩ := List.forall_mem_cons.mp free
      rw [List.flatMap_cons, List.append_assoc, List.singleton_append,
        pieces_append_cons (LineBuffer.separates_iff.mp first) (beq_self_eq_true _), ih later]
      rfl

/-- Let a server have been used in any way, and let anything be done with it. What it sends on a
connection is the replies to the requests that it answers there. Cutting this at its newlines gives
the replies one by one exactly if none of them breaks; and a reply breaks exactly if it refuses a
node and repeats a name that breaks. If the connection is there from the start, the requests are the
first of the lines that arrive on it, in order and however they are cut. -/
theorem replies_line_up (used : s.InUse) (key : String) (actions : List Action) :
    let dialogue := s.dialogue key actions
    s.sent key actions = dialogue.flatMap (fun turn => Line.bytes turn.2.line) ∧
      (pieces (· == Line.newline) (s.sent key actions) =
          dialogue.map (fun turn => Utf8.encode turn.2.line) ++ [[]] ↔
        ∀ turn ∈ dialogue, ¬ Line.Breaks turn.2.line) ∧
      (∀ turn ∈ dialogue, ∃ r, Group.Reachable (Registry.current r) ∧
        (Line.Breaks turn.2.line ↔ ∃ name, r.Repeats turn.1 turn.2 name ∧ Line.Breaks name)) ∧
      ∀ c, s.connections.lookup key = some c → (∀ action ∈ actions, action.connects key = false) →
        ∀ lines last, pieces (· == Line.newline)
            (c.buffer.toList ++ actions.flatMap (Action.input key)) = lines ++ [last] →
          dialogue.map (fun turn => .ok turn.1) <+: lines.map Line.text := by
  intro dialogue
  have sent := sent_eq_dialogue s key actions
  refine ⟨sent, ?_, ?_, fun c known old lines last cut => dialogue_in_order known old cut⟩
  · have lined : s.sent key actions =
        (dialogue.map fun turn => Utf8.encode turn.2.line).flatMap (· ++ [Line.newline]) := by
      rw [sent, List.flatMap_map]
      rfl
    rw [lined, pieces_lines_iff, List.forall_mem_map]
    exact forall₂_congr fun turn _ => not_congr Line.newline_mem_encode_iff
  · rintro ⟨request, reply⟩ mem
    obtain ⟨now, c, r, reachable, told⟩ := answered_of_mem_dialogue used.reachable mem
    exact ⟨r, reachable, Service.breaks_reply_iff reachable.wellFormed told⟩

/-- A group whose only node has a newline in its name. -/
def brokenGroup : Group :=
  ⟨"orders", Uuid.zero, .v1, 1, 1, Records.empty.insert ⟨"a\nb", 1, .electable, "h", 1, none, false, 1⟩⟩

theorem reachable_brokenGroup : brokenGroup.Reachable :=
  .step (.empty "orders" Uuid.zero .v1) (.add (.joining "a\nb" .electable "h" 1 none) (by decide))

/-- A server with that group and one connection. -/
def brokenServer : Server :=
  (make ⟨false, ""⟩ (.make brokenGroup ⟨none, []⟩)).run [.event "" (.connect "k" true none)]

theorem inUse_brokenServer : brokenServer.InUse := ⟨_, _, _, _, reachable_brokenGroup, rfl⟩

/-- Two requests that arrive in three pieces are answered by two lines. -/
theorem split_requests_line_up :
    let actions := ["ST", "OP\nJO", "IN\n"].map fun text => Action.event "" (.receive "k" (Utf8.encode text))
    let replies := ["ERROR bad_request protocol error: unknown request STOP",
      "ERROR bad_request protocol error: JOIN needs a stream version"]
    pieces (· == Line.newline) (brokenServer.sent "k" actions) = replies.map Utf8.encode ++ [[]] ∧
      (brokenServer.dialogue "k" actions).map (fun turn => (.ok turn.1 : Except AdmissionError String)) <+:
        ["STOP", "JOIN"].map .ok := by
  intro actions replies
  have told : (brokenServer.dialogue "k" actions).map (fun turn => turn.2.line) = replies := by decide +kernel
  have whole : ∀ line ∈ replies, ¬ Line.Breaks line := by decide +kernel
  have cut : pieces (· == Line.newline) (actions.flatMap (Action.input "k")) =
      ["STOP", "JOIN"].map Utf8.encode ++ [[]] := by decide +kernel
  obtain ⟨-, lined, -, ordered⟩ := replies_line_up inUse_brokenServer "k" actions
  refine ⟨?_, ordered _ rfl ?_ _ _ cut⟩
  · rw [← told] at whole ⊢
    rw [List.map_map]
    exact lined.mpr fun turn mem => whole _ (List.mem_map_of_mem mem)
  · intro action mem
    obtain ⟨text, -, rfl⟩ := List.mem_map.mp mem
    rfl

/-- The node with the broken name asks to join as a monitor. -/
def brokenJoin : String := "JOIN 4 1 0003610a62000000000100016800010000000000"

/-- One request is answered by two lines: the refusal repeats the node's name. -/
theorem broken_name_gives_two_lines :
    let actions := [Action.event "" (.receive "k" (Line.bytes brokenJoin))]
    brokenServer.InUse ∧ (brokenServer.connections.lookup "k").isSome = true ∧
      (actions.flatMap (Action.input "k")).count Line.newline = 1 ∧
      (brokenServer.dialogue "k" actions).length = 1 ∧
      (brokenServer.sent "k" actions).count Line.newline = 2 :=
  ⟨inUse_brokenServer, rfl, by decide +kernel, by decide +kernel, by decide +kernel⟩

end Server

end Roster

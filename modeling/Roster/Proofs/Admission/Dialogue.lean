import Roster.Proofs.Admission.Delivery
import Roster.Proofs.Admission.LineBreak

/-!
# Requests and their replies

A session answers the lines that it is given in their order, each by one reply, until one ends it.
What a server sends on a connection is the replies to the requests that come on it.
-/

namespace Roster

theorem Turn.ended_of_silent {n : Node} {held : Option String} {r : Registry}
    (silent : (accept n held r).reply = none) : (accept n held r).ended ≠ none := by
  rcases registered : r.register n with ⟨result, after⟩
  cases result with
  | error fault =>
    cases fault with
    | exhausted => simp [accept_of_exhausted registered, failWith]
    | refused e =>
      rw [accept_of_refused registered] at silent
      cases silent
  | ok g =>
    obtain ⟨_, _, eq, -⟩ := accept_of_admitted held registered
    rw [eq, sendGroup] at silent ⊢
    cases written : g.stream with
    | ok stream =>
      rw [written] at silent
      cases silent
    | error e => simp [failWith]

/-- A turn without a reply is the last one. -/
theorem Service.ended_of_silent {s : Service} {now line : String} {c : Connection} {r : Registry}
    (silent : (s.answer now line c r).reply = none) : (s.answer now line c r).ended ≠ none := by
  cases answers s now line c r with
  | barred _ eq | unread _ _ eq | status _ _ eq | incompatible _ _ _ eq =>
    rw [eq] at silent
    cases silent
  | join _ _ _ eq =>
    rw [eq] at silent ⊢
    exact Turn.ended_of_silent silent

namespace Session

/-- The next line with its reply, if it is answered. -/
def turn (service : Service) (now : String) (s : Session) :
    Except AdmissionError String → List (String × Reply)
  | .ok text =>
    if s.ended.isSome then []
    else ((service.answer now text s.connection s.registry).reply.map (Prod.mk text)).toList
  | .error _ => []

/-- Those of the lines that are answered, each with its reply. -/
def dialogue (service : Service) (now : String) (s : Session) :
    List (Except AdmissionError String) → List (String × Reply)
  | [] => []
  | line :: rest => s.turn service now line ++ (s.take service now line).dialogue service now rest

variable {service : Service} {now : String} {s : Session}

theorem take_of_ended (ended : s.ended.isSome = true) (line : Except AdmissionError String) :
    s.take service now line = s := by
  rw [take.eq_def]
  exact if_pos ended

theorem takeAll_of_ended (ended : s.ended.isSome = true) (lines : List (Except AdmissionError String)) :
    s.takeAll service now lines = s := by
  induction lines with
  | nil => rfl
  | cons line rest ih =>
    have same : s.takeAll service now (line :: rest) =
        (s.take service now line).takeAll service now rest := rfl
    rw [same, take_of_ended ended, ih]

theorem dialogue_of_ended (ended : s.ended.isSome = true) (lines : List (Except AdmissionError String)) :
    s.dialogue service now lines = [] := by
  induction lines with
  | nil => rfl
  | cons line rest ih =>
    have silent : s.turn service now line = [] := by
      cases line with
      | ok text => exact if_pos ended
      | error e => rfl
    rw [dialogue, silent, take_of_ended ended, ih]
    rfl

theorem take_of_going (going : ¬ s.ended.isSome = true) (text : String) :
    s.take service now (.ok text) = s.apply (service.answer now text s.connection s.registry) := by
  rw [take.eq_def]
  exact if_neg going

theorem turn_of_going (going : ¬ s.ended.isSome = true) (text : String) : s.turn service now (.ok text) =
    ((service.answer now text s.connection s.registry).reply.map (Prod.mk text)).toList := if_neg going

/-- The replies of a session are those of its dialogue. -/
theorem replies_takeAll (service : Service) (now : String) (s : Session)
    (lines : List (Except AdmissionError String)) :
    (s.takeAll service now lines).replies.reverse =
      s.replies.reverse ++ (s.dialogue service now lines).map Prod.snd := by
  induction lines generalizing s with
  | nil => exact (List.append_nil _).symm
  | cons line rest ih =>
    have step : (s.take service now line).replies.reverse =
        s.replies.reverse ++ (s.turn service now line).map Prod.snd := by
      by_cases ended : s.ended.isSome = true
      · rw [take_of_ended ended]
        cases line <;> simp [turn, ended]
      · cases line with
        | error e =>
          rw [take.eq_def, if_neg ended]
          simp [turn, finish]
        | ok text =>
          rw [take_of_going ended, turn_of_going ended, apply]
          cases (service.answer now text s.connection s.registry).reply <;> simp
    have whole := ih (s.take service now line)
    rw [step, List.append_assoc, ← List.map_append] at whole
    exact whole

/-- Lines are answered in their order; as long as the session goes on, all of them are. -/
theorem dialogue_in_order (service : Service) (now : String) (s : Session)
    (lines : List (Except AdmissionError String)) :
    (s.dialogue service now lines).map (fun turn => .ok turn.1) <+: lines ∧
      ((s.takeAll service now lines).ended = none →
        (s.dialogue service now lines).map (fun turn => .ok turn.1) = lines) := by
  have stopped : ∀ {s' : Session} rest, s'.ended.isSome = true →
      s'.dialogue service now rest = [] ∧ (s'.takeAll service now rest).ended ≠ none := by
    intro s' rest ended
    refine ⟨dialogue_of_ended ended rest, ?_⟩
    rw [takeAll_of_ended ended]
    exact Option.isSome_iff_ne_none.mp ended
  induction lines generalizing s with
  | nil => exact ⟨List.prefix_refl _, fun _ => rfl⟩
  | cons line rest ih =>
    rw [dialogue]
    by_cases ended : s.ended.isSome = true
    · obtain ⟨silent, last⟩ := stopped (line :: rest) ended
      rw [dialogue] at silent
      rw [silent]
      exact ⟨List.nil_prefix, fun going => absurd going last⟩
    cases line with
    | error e =>
      -- what is no line ends the session
      have finished : (s.take service now (.error e)).ended.isSome = true := by
        rw [take.eq_def, if_neg ended]
        rfl
      obtain ⟨silent, last⟩ := stopped rest finished
      rw [silent]
      exact ⟨List.nil_prefix, fun going => absurd going last⟩
    | ok text =>
      rw [turn_of_going ended]
      cases told : (service.answer now text s.connection s.registry).reply with
      | none =>
        have finished : (s.take service now (.ok text)).ended.isSome = true := by
          rw [take_of_going ended]
          exact Option.isSome_iff_ne_none.mpr (Service.ended_of_silent told)
        obtain ⟨silent, last⟩ := stopped rest finished
        rw [silent]
        exact ⟨List.nil_prefix, fun going => absurd going last⟩
      | some reply =>
        obtain ⟨front, whole⟩ := ih (s.take service now (.ok text))
        exact ⟨(List.prefix_cons_inj _).mpr front, fun going => congrArg _ (whole going)⟩

/-- What is no line is not answered, and ends the session. -/
theorem dialogue_before_error (service : Service) (now : String) (s : Session)
    (ahead : List (Except AdmissionError String)) (e : AdmissionError) :
    (s.dialogue service now (ahead ++ [.error e])).map (fun turn => .ok turn.1) <+: ahead ∧
      (s.takeAll service now (ahead ++ [.error e])).ended ≠ none := by
  obtain ⟨front, whole⟩ := s.dialogue_in_order service now (ahead ++ [.error e])
  have unanswered : (s.dialogue service now (ahead ++ [.error e])).map (fun turn => .ok turn.1) ≠
      ahead ++ [.error e] := by
    intro same
    have last : Except.error e ∈ ahead ++ [.error e] :=
      List.mem_append_right ahead (List.mem_singleton_self _)
    rw [← same] at last
    obtain ⟨turn, -, told⟩ := List.mem_map.mp last
    cases told
  exact ⟨(List.prefix_concat_iff.mp front).resolve_left unanswered, fun going => unanswered (whole going)⟩

/-- A line that is answered is the request itself, taken before the end. -/
theorem answered_of_mem_turn {line : Except AdmissionError String} {request : String} {reply : Reply}
    (mem : (request, reply) ∈ s.turn service now line) : line = .ok request ∧ ¬ s.ended.isSome = true ∧
      (service.answer now request s.connection s.registry).reply = some reply := by
  cases line with
  | error e => cases mem
  | ok text =>
    by_cases ended : s.ended.isSome = true
    · rw [turn, if_pos ended] at mem
      cases mem
    · rw [turn_of_going ended, Option.mem_toList, Option.map_eq_some_iff] at mem
      obtain ⟨told, answered, same⟩ := mem
      obtain ⟨rfl, rfl⟩ := Prod.mk.inj same
      exact ⟨rfl, ended, answered⟩

/-- Every reply was given to its request by a service that publishes some group that can come about. -/
theorem answered_of_mem_dialogue {lines : List (Except AdmissionError String)} {request : String}
    {reply : Reply} (reachable : s.registry.current.Reachable)
    (mem : (request, reply) ∈ s.dialogue service now lines) :
    ∃ c r, r.current.Reachable ∧ (service.answer now request c r).reply = some reply := by
  induction lines generalizing s with
  | nil => cases mem
  | cons line rest ih =>
    rw [dialogue, List.mem_append] at mem
    rcases mem with here | later
    · obtain ⟨-, -, answered⟩ := answered_of_mem_turn here
      exact ⟨s.connection, s.registry, reachable, answered⟩
    · exact ih ((take_follows service now s line).reachable reachable) later

@[simp] theorem take_buffer (s : Session) (line : Except AdmissionError String) :
    (s.take service now line).connection.buffer = s.connection.buffer := by
  rw [take.eq_def]
  by_cases ended : s.ended.isSome = true
  · rw [if_pos ended]
  · rw [if_neg ended]
    cases line <;> rfl

@[simp] theorem takeAll_buffer (s : Session) (lines : List (Except AdmissionError String)) :
    (s.takeAll service now lines).connection.buffer = s.connection.buffer := by
  induction lines generalizing s with
  | nil => rfl
  | cons line rest ih => exact (ih _).trans (take_buffer s line)

end Session

/-- The bytes that an action brings to a connection. -/
def Action.input (key : String) : Action → List UInt8
  | .event _ (.receive other bytes) => if other = key then bytes else []
  | _ => []

namespace Server

/-- The requests on a connection that an action brings about and that are answered, each with its reply. -/
def exchange (s : Server) (key : String) : Action → List (String × Reply)
  | .event now (.receive other bytes) =>
    if other = key then
      match s.connections.lookup key with
      | some c =>
        let session := Session.start c s.registry
        (session.got bytes).dialogue s.service now (session.lines bytes)
      | none => []
    else []
  | _ => []

/-- The requests on a connection that a run answers, each with its reply. -/
def dialogue (s : Server) (key : String) : List Action → List (String × Reply)
  | [] => []
  | action :: rest => s.exchange key action ++ (s.act action).dialogue key rest

variable {s : Server} {key : String} {c : Connection}

theorem exchange_receive (known : s.connections.lookup key = some c) (now : String) (bytes : List UInt8) :
    s.exchange key (.event now (.receive key bytes)) =
      ((Session.start c s.registry).got bytes).dialogue s.service now
        ((Session.start c s.registry).lines bytes) := by
  simp only [exchange, if_true, known]

/-- Work that adds no reply sends nothing. -/
theorem serve_silent {work : Session → Session} (same : ∀ session, (work session).replies = session.replies) :
    (s.serve key work).1.bytes = [] := by
  rw [serve]
  cases s.connections.lookup key with
  | none => rfl
  | some c => simp [outcome_settle, same, Session.start]

/-- What an action makes the server send on a connection is the replies of its exchange. -/
theorem exchange_bytes (s : Server) (key : String) (action : Action) :
    (if action.concerns key then (s.outcome action).bytes else []) =
      (s.exchange key action).flatMap fun turn => Line.bytes turn.2.line := by
  cases action with
  | update edit => rfl
  | event now event =>
    cases event with
    | receive other bytes =>
      by_cases same : other = key
      · subst same
        rw [if_pos (by simp [Action.concerns, Event.connection?])]
        cases known : s.connections.lookup other with
        | none => simp [outcome, apply, serve, exchange, known, Outcome.bytes]
        | some c =>
          have told := Session.replies_takeAll s.service now
            ((Session.start c s.registry).got bytes) ((Session.start c s.registry).lines bytes)
          have fresh : ((Session.start c s.registry).got bytes).replies.reverse = [] := rfl
          rw [exchange_receive known, outcome, receive_known known, outcome_settle, Session.receive_eq, told,
            fresh, List.nil_append, List.flatMap_map]
      · have apart : ¬ (Action.event now (.receive other bytes)).concerns key = true := by
          simpa [Action.concerns, Event.connection?] using same
        rw [if_neg apart, exchange, if_neg same]
        rfl
    | connect other trusted peer => exact ite_self _
    | endInput other =>
      have silent : (s.endInput other).1.bytes = [] := by
        refine serve_silent fun session => ?_
        obtain ⟨ending, finished⟩ := session.endInput_eq
        rw [finished]
        rfl
      exact (if_congr Iff.rfl silent rfl).trans (ite_self _)
    | close other =>
      have silent : (s.serve other (Session.finish · (.error (.refused (.channel .closed))))).1.bytes = [] :=
        serve_silent fun _ => rfl
      exact (if_congr Iff.rfl silent rfl).trans (ite_self _)
    | _ => rfl

theorem sent_eq_dialogue (s : Server) (key : String) (actions : List Action) :
    s.sent key actions = (s.dialogue key actions).flatMap fun turn => Line.bytes turn.2.line := by
  induction actions generalizing s with
  | nil => rfl
  | cons action rest ih => rw [sent_cons, dialogue, List.flatMap_append, exchange_bytes, ih]

/-- A connection that is not there and does not come about answers nothing. -/
theorem dialogue_absent (absent : s.connections.lookup key = none) {actions : List Action}
    (old : ∀ action ∈ actions, action.connects key = false) : s.dialogue key actions = [] := by
  induction actions generalizing s with
  | nil => rfl
  | cons action rest ih =>
    obtain ⟨first, later⟩ := List.forall_mem_cons.mp old
    have silent : s.exchange key action = [] := by
      unfold exchange
      split
      · simp only [absent, ite_self]
      · rfl
    rw [dialogue, silent, ih (act_absent absent first) later]
    rfl

/-- What is answered on a connection comes in bytes on it. -/
theorem received_of_mem_exchange {action : Action} {turn : String × Reply} (mem : turn ∈ s.exchange key action) :
    ∃ now bytes c, action = .event now (.receive key bytes) ∧ s.connections.lookup key = some c ∧
      turn ∈ ((Session.start c s.registry).got bytes).dialogue s.service now
        ((Session.start c s.registry).lines bytes) := by
  unfold exchange at mem
  split at mem
  · split at mem
    · rename_i same
      subst same
      split at mem
      · exact ⟨_, _, _, rfl, ‹_›, mem⟩
      · cases mem
    · cases mem
  · cases mem

theorem answered_of_mem_dialogue {actions : List Action} {request : String} {reply : Reply}
    (reachable : s.registry.current.Reachable) (mem : (request, reply) ∈ s.dialogue key actions) :
    ∃ now c r, Group.Reachable (Registry.current r) ∧
      (s.service.answer now request c r).reply = some reply := by
  induction actions generalizing s with
  | nil => cases mem
  | cons action rest ih =>
    rw [dialogue, List.mem_append] at mem
    rcases mem with here | later
    · obtain ⟨now, _, _, -, -, turn⟩ := received_of_mem_exchange here
      obtain ⟨c, r, at_time, told⟩ := Session.answered_of_mem_dialogue reachable turn
      exact ⟨now, c, r, at_time, told⟩
    · obtain ⟨now, c, r, at_time, told⟩ := ih ((act_follows action).reachable reachable) later
      rw [act_service] at told
      exact ⟨now, c, r, at_time, told⟩

end Server

end Roster

import Roster.Proofs.Admission.Ledger
import Roster.Proofs.Admission.Lineage
import Roster.Proofs.Group.Replay

/-!
# What has been done to the group of a server

Operators ask for edits and are told whether they have been made. A joining node asks for none, but a
server that admits it may have to add it or to move its record. From the outcomes and replies of a run its
edits can be listed in the order in which they were made, and replayed they give the published group.
-/

namespace Roster

/-- Edits made in turn. -/
def GroupEdit.replay (edits : List Edit) : GroupEdit := ⟨(·.replay edits), fun reachable h => reachable.replay h⟩

/-- The edits that an operator asks for. -/
def Event.asks : Event → List Edit
  | .add n => [.add n]
  | .remove name => [.remove name]
  | .delete name => [.delete name]
  | .move name host port => [.move name host port]
  | .convert format => [.convert format]
  | .batch nodes names => Edit.ofBatch nodes names
  | _ => []

/-- What is done to a server: an event, or one update with any edits of an operator. -/
inductive Task where
  | event (now : String) (event : Event)
  | batch (edits : List Edit)

namespace Task

def action : Task → Action
  | event now e => .event now e
  | batch edits => .update (.replay edits)

def asks : Task → List Edit
  | event _ e => e.asks
  | batch edits => edits

theorem eq_event_of_action {task : Task} {now : String} {e : Event} (h : task.action = .event now e) :
    task = .event now e := by
  cases task with
  | event now' e' =>
    cases h
    rfl
  | batch edits => cases h

end Task

namespace Registry

variable {r r' : Registry} {edit : Group → EditResult Group} {asked : List Edit} {n : Node}

/-- The edit that admitting a node takes, if it takes one. -/
def needs (n : Node) (r : Registry) : List Edit :=
  match r.current.find? n.name with
  | none => [.add n]
  | some m => if m.host = n.host ∧ m.port = n.port then [] else [.move n.name n.host n.port]

/-- The edits that were asked for, if they have been made. -/
def made (asked : List Edit) : UpdateResult Group → List Edit
  | .ok _ => asked
  | .error _ => []

theorem replay_update (same : edit r.current = r.current.replay asked) :
    r.current.replay (made asked (r.update edit).1) = .ok (r.update edit).2.current := by
  rcases update_cases edit r with ⟨next, _, edited, -, -, eq⟩ | ⟨_, _, eq⟩
  · rw [eq]
    exact same.symm.trans edited
  · rw [eq]
    exact Group.replay_nil _

theorem replay_updateInactive (name : String) (same : edit r.current = r.current.replay asked) :
    r.current.replay (made asked (r.updateInactive name edit).1) = .ok (r.updateInactive name edit).2.current := by
  rw [updateInactive]
  cases r.requireInactive name with
  | ok => exact replay_update same
  | error e => exact Group.replay_nil _

theorem replay_update_edit (e : Edit) (r : Registry) :
    r.current.replay (made [e] (r.update (·.edit e)).1) = .ok (r.update (·.edit e)).2.current :=
  replay_update (Group.replay_singleton r.current e).symm

theorem replay_updateInactive_edit (name : String) (e : Edit) (r : Registry) :
    r.current.replay (made [e] (r.updateInactive name (·.edit e)).1) =
      .ok (r.updateInactive name (·.edit e)).2.current :=
  replay_updateInactive name (Group.replay_singleton r.current e).symm

theorem replay_register (n : Node) (r : Registry) :
    r.current.replay (made (r.needs n) (r.register n).1) = .ok (r.register n).2.current := by
  cases registering n r with
  | new absent eq =>
    have needed : r.needs n = [.add n] := by rw [needs, absent]
    rw [eq, needed]
    exact r.replay_update_edit (.add n)
  | refused _ _ eq =>
    rw [eq]
    exact Group.replay_nil _
  | back known _ _ address eq =>
    have needed : r.needs n = [] := by
      rw [needs, known]
      exact if_pos address
    rw [eq, needed]
    exact Group.replay_nil _
  | moved known _ _ elsewhere _ eq =>
    have needed : r.needs n = [.move n.name n.host n.port] := by
      rw [needs, known]
      exact if_neg elsewhere
    rw [eq, needed]
    exact r.replay_update_edit (.move n.name n.host n.port)

end Registry

namespace Service

/-- The edits that are made for a line. They are what the joining node needs, if it is sent a group. -/
def edits (s : Service) (now line : String) (c : Connection) (r : Registry) : List Edit :=
  match (s.answer now line c r).reply, Request.parse line with
  | some (.group _ _), .ok (.join _ _ n) => r.needs n
  | _, _ => []

variable {s : Service} {now line : String} {c : Connection} {r : Registry}

theorem edits_of_group {version : UInt32} {written format : FormatVersion} {n : Node} {stream : String}
    (reply : (s.answer now line c r).reply = some (.group format stream))
    (parsed : Request.parse line = .ok (.join version written n)) : s.edits now line c r = r.needs n := by
  simp only [edits, reply, parsed]

theorem edits_of_no_group (other : ∀ format stream, (s.answer now line c r).reply ≠ some (.group format stream)) :
    s.edits now line c r = [] := by
  rw [edits]
  split
  · rename_i reply _
    exact absurd reply (other _ _)
  · rfl

/-- A node that has been registered is sent the group, unless the group is the one that was there. -/
theorem answer_current (s : Service) (now line : String) (c : Connection) (r : Registry)
    (other : ∀ format stream, (s.answer now line c r).reply ≠ some (.group format stream)) :
    (s.answer now line c r).registry.current = r.current := by
  cases answering s now line c r with
  | aside registry _ _ _ => rw [registry]
  | @join _ _ n _ _ eq _ =>
    rw [eq] at other ⊢
    rw [Turn.accept_current]
    have replayed := r.replay_register n
    rcases registered : r.register n with ⟨result, after⟩
    rw [registered] at replayed
    cases result with
    | error fault => exact (Except.ok.inj replayed).symm
    | ok g =>
      rcases Registry.register_stored registered with ⟨stream, written, -⟩ | ⟨-, same⟩
      · obtain ⟨kept, r', sends, -⟩ := Turn.accept_of_admitted c.held registered
        have reply : (Turn.accept n c.held r).reply = some (.group g.format stream) := by
          rw [sends]
          exact Turn.sendGroup_reply_iff.mpr ⟨rfl, written⟩
        exact absurd reply (other _ _)
      · rw [same]

theorem replay_answer (s : Service) (now line : String) (c : Connection) (r : Registry) :
    r.current.replay (s.edits now line c r) = .ok (s.answer now line c r).registry.current := by
  by_cases sent : ∃ format stream, (s.answer now line c r).reply = some (.group format stream)
  · obtain ⟨format, stream, reply⟩ := sent
    obtain ⟨_, _, n, g, after, -, parsed, -, registered, -, -, eq⟩ := answer_group reply
    have replayed := r.replay_register n
    rw [registered] at replayed
    rw [edits_of_group reply parsed, eq, Turn.accept_current, registered]
    exact replayed
  · have other : ∀ format stream, (s.answer now line c r).reply ≠ some (.group format stream) :=
      fun format stream reply => sent ⟨format, stream, reply⟩
    rw [edits_of_no_group other, s.answer_current now line c r other]
    exact Group.replay_nil _

end Service

namespace Session

variable {service : Service} {now : String} {s : Session}

/-- The edits that are made for the next line. -/
def edits (service : Service) (now : String) (s : Session) : Except AdmissionError String → List Edit
  | .ok text => if s.ended.isSome then [] else service.edits now text s.connection s.registry
  | .error _ => []

/-- The edits that are made for lines in turn. -/
def history (service : Service) (now : String) (s : Session) : List (Except AdmissionError String) → List Edit
  | [] => []
  | line :: rest => s.edits service now line ++ (s.take service now line).history service now rest

theorem replay_take (service : Service) (now : String) (s : Session) (line : Except AdmissionError String) :
    s.registry.current.replay (s.edits service now line) = .ok (s.take service now line).registry.current := by
  by_cases ended : s.ended.isSome = true
  · have none : s.edits service now line = [] := by
      cases line with
      | ok text => exact if_pos ended
      | error e => rfl
    rw [none, take_of_ended ended]
    exact Group.replay_nil _
  · cases line with
    | error e =>
      rw [take.eq_def, if_neg ended]
      exact Group.replay_nil _
    | ok text =>
      rw [take_of_going ended, edits, if_neg ended]
      exact service.replay_answer now text s.connection s.registry

theorem replay_takeAll (service : Service) (now : String) (s : Session) (lines : List (Except AdmissionError String)) :
    s.registry.current.replay (s.history service now lines) = .ok (s.takeAll service now lines).registry.current := by
  induction lines generalizing s with
  | nil => exact Group.replay_nil _
  | cons line rest ih =>
    have first := replay_take service now s line
    have later := ih (s.take service now line)
    exact Group.replay_append_eq_ok_iff.mpr ⟨_, first, later⟩

/-- An answered line has its place in the history: what was done before gave the group that it met, what it
did itself comes next, and the rest was done afterwards. -/
theorem place_in_history {lines : List (Except AdmissionError String)} {request : String} {reply : Reply}
    (mem : (request, reply) ∈ s.dialogue service now lines) :
    ∃ before after c r, (service.answer now request c r).reply = some reply ∧
      s.history service now lines = before ++ service.edits now request c r ++ after ∧
      s.registry.current.replay before = .ok (Registry.current r) := by
  induction lines generalizing s with
  | nil => cases mem
  | cons line rest ih =>
    rw [dialogue, List.mem_append] at mem
    rcases mem with here | later
    · obtain ⟨rfl, going, answered⟩ := answered_of_mem_turn here
      refine ⟨[], (s.take service now (.ok request)).history service now rest, s.connection, s.registry, answered,
        ?_, Group.replay_nil _⟩
      rw [history, edits, if_neg going, List.nil_append]
    · obtain ⟨before, after, c, r, answered, whole, replayed⟩ := ih later
      refine ⟨s.edits service now line ++ before, after, c, r, answered, ?_, ?_⟩
      · rw [history, whole]
        simp only [List.append_assoc]
      · exact Group.replay_append_eq_ok_iff.mpr ⟨_, replay_take service now s line, replayed⟩

end Session

namespace Server

variable {s : Server}

/-- The edits that are made for a task. -/
def edits (s : Server) (task : Task) : List Edit :=
  match task with
  | .event now (.receive key bytes) =>
    match s.connections.lookup key with
    | some c =>
      let session := Session.start c s.registry
      (session.got bytes).history s.service now (session.lines bytes)
    | none => []
  | _ =>
    match s.outcome task.action with
    | .published result => Registry.made task.asks result
    | _ => []

/-- A server that has been given tasks in turn. -/
def perform (s : Server) (tasks : List Task) : Server := s.run (tasks.map Task.action)

/-- The edits that are made for tasks in turn. -/
def history (s : Server) : List Task → List Edit
  | [] => []
  | task :: rest => s.edits task ++ (s.act task.action).history rest

/-- The requests on a connection that are answered while tasks are done, each with its reply. -/
def turns (s : Server) (key : String) (tasks : List Task) : List (String × Reply) :=
  s.dialogue key (tasks.map Task.action)

theorem edits_receive {key : String} {c : Connection} (known : s.connections.lookup key = some c) (now : String)
    (bytes : List UInt8) : s.edits (.event now (.receive key bytes)) =
      ((Session.start c s.registry).got bytes).history s.service now ((Session.start c s.registry).lines bytes) := by
  simp only [edits, known]

theorem edits_of_unasked {task : Task} (other : ∀ now key bytes, task ≠ .event now (.receive key bytes))
    (none : task.asks = []) : s.edits task = [] := by
  unfold edits
  split
  · exact absurd rfl (other _ _ _)
  · split
    · rename_i result _
      rw [none]
      cases result <;> rfl
    · rfl

/-- A task that asks for no edit and publishes nothing has no part in the history. -/
theorem replay_quiet {task : Task} (other : ∀ now key bytes, task ≠ .event now (.receive key bytes))
    (none : task.asks = []) (quiet : s.publishes task.action = []) :
    s.registry.current.replay (s.edits task) = .ok (s.act task.action).registry.current := by
  obtain ⟨same, -⟩ := (act_follows task.action).quiet quiet
  rw [edits_of_unasked other none, same]
  exact Group.replay_nil _

theorem replay_receive (s : Server) (now key : String) (bytes : List UInt8) :
    s.registry.current.replay (s.edits (.event now (.receive key bytes))) =
      .ok (s.act (.event now (.receive key bytes))).registry.current := by
  cases known : s.connections.lookup key with
  | none =>
    simp only [edits, known, act, apply, serve]
    exact Group.replay_nil _
  | some c =>
    have after : (s.act (.event now (.receive key bytes))).registry.current =
        ((Session.start c s.registry).receive s.service now bytes).registry.current := by
      rw [act, receive_known known]
      exact Session.released_current _
    rw [edits_receive known, after, Session.receive_eq]
    exact Session.replay_takeAll s.service now ((Session.start c s.registry).got bytes) _

theorem replay_act (s : Server) (task : Task) :
    s.registry.current.replay (s.edits task) = .ok (s.act task.action).registry.current := by
  cases task with
  | batch edits => exact Registry.replay_update rfl
  | event now event =>
    cases event with
    | add n => exact s.registry.replay_update_edit (.add n)
    | remove name => exact s.registry.replay_update_edit (.remove name)
    | delete name => exact s.registry.replay_updateInactive_edit name (.delete name)
    | move name host port => exact s.registry.replay_updateInactive_edit name (.move name host port)
    | convert format => exact s.registry.replay_update_edit (.convert format)
    | batch nodes names =>
      have same : (GroupEdit.batch nodes names).run s.registry.current =
          s.registry.current.replay (Edit.ofBatch nodes names) :=
        (s.registry.current.replay_ofBatch nodes names).symm
      exact Registry.replay_update same
    | receive key bytes => exact s.replay_receive now key bytes
    | activate guard name =>
      refine replay_quiet (by simp) rfl ?_
      simp only [publishes, Task.action, apply, activate]
      cases s.registry.activate name <;> rfl
    | release guard =>
      refine replay_quiet (by simp) rfl ?_
      simp only [publishes, Task.action, apply, release]
      cases s.guards.lookup guard <;> rfl
    | connect key trusted peer => exact replay_quiet (by simp) rfl rfl
    | endInput key => exact replay_quiet (by simp) rfl (told_serve key _)
    | close key => exact replay_quiet (by simp) rfl (told_serve key _)

/-- Replaying the history of a run gives the group that the server publishes afterwards. -/
theorem replay_history (s : Server) (tasks : List Task) :
    s.registry.current.replay (s.history tasks) = .ok (s.perform tasks).registry.current := by
  induction tasks generalizing s with
  | nil => exact Group.replay_nil _
  | cons task rest ih =>
    have first := s.replay_act task
    have later := ih (s.act task.action)
    exact Group.replay_append_eq_ok_iff.mpr ⟨_, first, later⟩

/-- A request that is answered in a run has its place in the history. -/
theorem place_in_history {key request : String} {reply : Reply} {tasks : List Task}
    (mem : (request, reply) ∈ s.turns key tasks) :
    ∃ before after now c r, (s.service.answer now request c r).reply = some reply ∧
      s.history tasks = before ++ s.service.edits now request c r ++ after ∧
      s.registry.current.replay before = .ok (Registry.current r) := by
  induction tasks generalizing s with
  | nil => cases mem
  | cons task rest ih =>
    rw [turns, List.map_cons, dialogue, List.mem_append] at mem
    rcases mem with here | later
    · obtain ⟨now, bytes, c, action, known, turn⟩ := received_of_mem_exchange here
      obtain rfl : task = .event now (.receive key bytes) := Task.eq_event_of_action action
      obtain ⟨before, after, c', r, answered, whole, replayed⟩ := Session.place_in_history turn
      refine ⟨before, after ++ (s.act (Task.event now (.receive key bytes)).action).history rest, now, c', r, answered,
        ?_, replayed⟩
      rw [history, edits_receive known, whole]
      simp only [List.append_assoc]
    · obtain ⟨before, after, now, c, r, answered, whole, replayed⟩ := ih later
      rw [act_service] at answered whole
      refine ⟨s.edits task ++ before, after, now, c, r, answered, ?_, ?_⟩
      · rw [history, whole]
        simp only [List.append_assoc]
      · exact Group.replay_append_eq_ok_iff.mpr ⟨_, s.replay_act task, replayed⟩

/-- An admitted name is that of a join which has been answered by a group. -/
theorem admitted_eq_some {turn : String × Reply} {name : String} (h : admitted? turn = some name) :
    ∃ format stream version written n, turn.2 = .group format stream ∧
      Request.parse turn.1 = .ok (.join version written n) ∧ n.name = name := by
  unfold admitted? at h
  split at h
  · split at h
    · rename_i version written n parsed
      exact ⟨_, _, version, written, n, rfl, parsed, Option.some.inj h⟩
    · cases h
  · cases h

/-- A client that is admitted receives the group that the edits up to its turn have given, and is listed in it. -/
theorem received_of_admitted (reachable : s.registry.current.Reachable) {key : String} {tasks : List Task}
    {turn : String × Reply} (mem : turn ∈ s.turns key tasks) {name : String} (admitted : admitted? turn = some name) :
    ∃ upto after format stream g m, s.history tasks = upto ++ after ∧ s.registry.current.replay upto = .ok g ∧
      turn.2 = .group format stream ∧ Group.ofStream stream = .ok g ∧ g.find? name = some m := by
  obtain ⟨format, stream, _, _, n, told, parsed, rfl⟩ := admitted_eq_some admitted
  obtain ⟨before, after, now, c, r, answered, whole, met⟩ := place_in_history mem
  rw [told] at answered
  obtain ⟨_, _, n', g, r', -, parsed', -, registered, -, written, eq⟩ := Service.answer_group answered
  cases parsed.symm.trans parsed'
  obtain ⟨admits, -⟩ := Registry.register_admits registered
  have received : (s.service.answer now turn.1 c r).registry.current = g := by
    rw [eq]
    exact Turn.current_of_registered _ registered
  have here : r.current.replay (s.service.edits now turn.1 c r) = .ok g := by
    rw [s.service.replay_answer now turn.1 c r, received]
  have upto : s.registry.current.replay (before ++ s.service.edits now turn.1 c r) = .ok g :=
    Group.replay_append_eq_ok_iff.mpr ⟨_, met, here⟩
  have wf := (reachable.replay upto).wellFormed
  obtain ⟨m, listed, -⟩ := admits.member
  exact ⟨_, after, format, stream, g, m, whole, upto, told, Group.ofStream_eq_ok_iff.mpr ⟨wf, written⟩, listed⟩

/-- Let operators and connections do anything to a server whose group can come about, in whatever order. The
edits that were made, in the order in which they were made, give the group that is published in the end.
It has counted up its change version once for each edit of a record, and its sequence once for each node
that was added. Under a name that was not deleted, every client that was admitted has received a group that
lists the name under one and the same id, which is the one that it has in the end. -/
theorem no_update_is_lost {s : Server} (reachable : s.registry.current.Reachable) (tasks : List Task) :
    let start := s.registry.current
    let final := (s.perform tasks).registry.current
    let history := s.history tasks
    start.replay history = .ok final ∧
    final.change.toNat = start.change.toNat + history.countP Edit.isOfRecord ∧
    final.sequence.toNat = start.sequence.toNat + history.countP Edit.isAdd ∧
    ∀ name, .delete name ∉ history → ∀ key, ∀ turn ∈ s.turns key tasks, admitted? turn = some name →
      ∃ format stream g m last, turn.2 = .group format stream ∧ Group.ofStream stream = .ok g ∧
        g.find? name = some m ∧ final.find? name = some last ∧ m.id = last.id := by
  intro start final history
  have replayed : start.replay history = .ok final := s.replay_history tasks
  obtain ⟨change, sequence⟩ := Group.replay_counts replayed
  refine ⟨replayed, change, sequence, ?_⟩
  intro name kept key turn mem admitted
  obtain ⟨upto, after, format, stream, g, m, whole, first, told, read, listed⟩ :=
    received_of_admitted reachable mem admitted
  -- what was done after the client's turn has left the record its id
  rw [show history = _ from whole] at replayed kept
  obtain ⟨g', first', later⟩ := Group.replay_append_eq_ok_iff.mp replayed
  cases first.symm.trans first'
  have untouched : .delete name ∉ after := fun deleted => kept (List.mem_append_right _ deleted)
  obtain ⟨last, known, same⟩ := Group.id_replay later untouched listed
  exact ⟨format, stream, g, m, last, told, read, listed, known, same.symm⟩

/-- Two clients join under one name while an operator edits the group. -/
def sharing : List Task :=
  [.event "" (.connect "a" true none), .event "" (.connect "b" true none),
    .event "" (.receive "a" (Line.bytes joinLine)), .event "" (.remove "n1"),
    .batch [.move "n1" "db2" 8, .remove "n1"], .event "" (.receive "b" (Line.bytes joinLine))]

/-- The first removal cannot be saved. The clients receive different groups, and one id. -/
theorem sharing_loses_no_update :
    let s := make ⟨false, ""⟩ (.make Group.sample ⟨none, [false, true]⟩)
    Group.sample.Reachable ∧ (s.history sharing).length = 3 ∧ .delete "n2" ∉ s.history sharing ∧
      ((s.turns "a" sharing).map admitted?, (s.turns "b" sharing).map admitted?) =
        ([some "n2"], [some "n2"]) ∧
      (s.perform sharing).registry.current.change.toNat = Group.sample.change.toNat + 3 ∧
      ∃ id, ∀ key, ∀ turn ∈ s.turns key sharing, admitted? turn = some "n2" →
        ∃ format stream g m, turn.2 = .group format stream ∧ Group.ofStream stream = .ok g ∧
          g.find? "n2" = some m ∧ m.id = id := by
  intro s
  have reachable : Group.sample.Reachable := .read Group.read_sample
  have kept : .delete "n2" ∉ s.history sharing := by decide +kernel
  have counted : (s.history sharing).countP Edit.isOfRecord = 3 := by decide +kernel
  obtain ⟨-, change, -, same⟩ := no_update_is_lost (s := s) reachable sharing
  refine ⟨reachable, by decide +kernel, kept, by decide +kernel, counted ▸ change, 2, ?_⟩
  intro key turn mem admitted
  obtain ⟨format, stream, g, m, last, told, read, listed, known, id⟩ := same "n2" kept key turn mem admitted
  have final : ((s.perform sharing).registry.current.find? "n2").map Node.id = some 2 := by decide +kernel
  rw [known] at final
  exact ⟨format, stream, g, m, told, read, listed, id.trans (Option.some.inj final)⟩

end Server

end Roster

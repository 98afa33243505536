import Roster.Proofs.Admission.Holders
import Roster.Proofs.Group.RoundTrip

/-!
# Joins that are answered by a group

A join that is answered by a group has admitted its node: the group that is sent is the current
one, it lists the node as announced, and the node is active.
-/

namespace Roster

theorem Turn.accept_sound {n : Node} {held : Option String} {r : Registry} {others : List String}
    {format : FormatVersion} {stream : String} (holds : r.holds.names.Perm (held.toList ++ others))
    (reply : (accept n held r).reply = some (.group format stream)) :
    r.current.Admits n (accept n held r).registry.current ∧
      (accept n held r).registry.current.format = format ∧
      (accept n held r).registry.current.stream = .ok stream ∧
      (accept n held r).registry.isActive n.name = true := by
  -- the node is active because it is what the connection holds afterwards, whoever else holds it
  have after := accept_holds (n := n) holds
  rw [Registry.isActive_iff, after.mem_iff]
  cases accepting n held r with
  | refused _ _ other => exact absurd reply (other format stream)
  | again admitted same eq =>
    obtain ⟨admits, current, -⟩ := Registry.register_admits admitted
    rw [eq, sendGroup_reply_iff] at reply
    rw [eq, sendGroup_registry, sendGroup_held, current, same]
    exact ⟨admits, reply.1, reply.2, List.mem_cons_self⟩
  | anew admitted eq =>
    obtain ⟨admits, current, -⟩ := Registry.register_admits admitted
    rw [eq, sendGroup_reply_iff] at reply
    rw [eq, sendGroup_registry, sendGroup_held, Registry.letGo_current, current]
    exact ⟨admits, reply.1, reply.2, List.mem_cons_self⟩

/-- Of the lines, only joins that pass the gate are answered by a group. -/
theorem Service.answer_sound {s : Service} {now line : String} {c : Connection} {r : Registry}
    {others : List String} {format : FormatVersion} {stream : String}
    (holds : r.holds.names.Perm (c.held.toList ++ others))
    (reply : (s.answer now line c r).reply = some (.group format stream)) :
    ∃ version written n, Request.parse line = .ok (.join version written n) ∧
      Gate.check r.current.format version = .ok () ∧
      r.current.Admits n (s.answer now line c r).registry.current ∧
      (s.answer now line c r).registry.current.format = format ∧
      (s.answer now line c r).registry.current.stream = .ok stream ∧
      (s.answer now line c r).registry.isActive n.name = true := by
  cases answering s now line c r with
  | aside _ _ other _ => exact absurd reply (other format stream)
  | join parsed compatible eq _ =>
    rw [eq] at reply ⊢
    exact ⟨_, _, _, parsed, compatible, Turn.accept_sound holds reply⟩

/-- A line that adds a reply to a session was answered by it. -/
theorem Session.take_replies {s : Session} {service : Service} {now line : String} {reply : Reply}
    (answered : (s.take service now (.ok line)).replies = reply :: s.replies) :
    (service.answer now line s.connection s.registry).reply = some reply ∧
      s.take service now (.ok line) = s.apply (service.answer now line s.connection s.registry) := by
  rw [take.eq_def] at answered ⊢
  by_cases ended : s.ended.isSome = true
  · rw [if_pos ended] at answered
    exact absurd answered.symm (List.cons_ne_self _ _)
  · rw [if_neg ended] at answered ⊢
    refine ⟨?_, rfl⟩
    cases told : (service.answer now line s.connection s.registry).reply with
    | none =>
      simp only [apply, told, Option.toList_none, List.nil_append] at answered
      exact absurd answered.symm (List.cons_ne_self _ _)
    | some other =>
      simp only [apply, told, Option.toList_some, List.singleton_append] at answered
      rw [(List.cons.inj answered).1]

/-- A session that is answered by a group has had its node registered in that group, which is what is
current afterwards. -/
theorem Session.registered_of_group {s : Session} {service : Service} {now line : String} {format : FormatVersion}
    {stream : String} (answered : (s.take service now (.ok line)).replies = .group format stream :: s.replies) :
    ∃ version written n g after, Request.parse line = .ok (.join version written n) ∧
      s.registry.register n = (.ok g, after) ∧ g.format = format ∧ g.stream = .ok stream ∧
      (s.take service now (.ok line)).registry.current = g := by
  obtain ⟨reply, eq⟩ := take_replies answered
  obtain ⟨version, written, n, g, after, -, parsed, -, registered, same, sent, accepted⟩ :=
    Service.answer_group reply
  refine ⟨version, written, n, g, after, parsed, registered, same, sent, ?_⟩
  rw [eq, apply, accepted]
  exact Turn.current_of_registered _ registered

namespace Server

/-- A server that is in use: it was made of a group that can come about, and things have been done
to it since. -/
def InUse (s : Server) : Prop :=
  ∃ service group store actions, group.Reachable ∧ s = (make service (.make group store)).run actions

theorem InUse.reachable {s : Server} (h : s.InUse) : s.registry.current.Reachable := by
  obtain ⟨service, group, store, actions, reachable, rfl⟩ := h
  exact (run_follows _ actions).reachable reachable

theorem InUse.accounted {s : Server} (h : s.InUse) : s.Accounted := by
  obtain ⟨service, group, store, actions, -, rfl⟩ := h
  exact (accounted_make service group store).run actions

/-- Whatever has been done to a server and whatever lines have been taken before, a line that is
answered by a group is a join at a version that may read the group. It is the current group that
is sent, with the joining node among its active members as announced. -/
theorem group_reply_admits {s : Server} (used : s.InUse) {now key line : String}
    {taken rest : List (Except AdmissionError String)} {log : List Group} {session : Session}
    (midway : s.Midway now key taken (.ok line :: rest) log session) {format : FormatVersion}
    {stream : String} (answered : (session.take s.service now (.ok line)).replies =
      .group format stream :: session.replies) :
    ∃ version written n, Request.parse line = .ok (.join version written n) ∧
      let after := (session.take s.service now (.ok line)).registry
      Group.ofStream stream = .ok after.current ∧ format = after.current.format ∧
        Gate.check format version = .ok () ∧ session.registry.current.Admits n after.current ∧
        after.isActive n.name = true := by
  obtain ⟨others, holds⟩ := used.accounted.midway midway
  obtain ⟨reply, eq⟩ := Session.take_replies answered
  obtain ⟨version, written, n, parsed, compatible, admits, same, sent, active⟩ :=
    Service.answer_sound holds reply
  have follows := midway.follows.trans (Session.take_follows s.service now session (.ok line))
  have wf := (follows.reachable used.reachable).wellFormed
  refine ⟨version, written, n, parsed, ?_⟩
  rw [eq] at wf ⊢
  refine ⟨Group.ofStream_eq_ok_iff.mpr ⟨wf, sent⟩, same.symm, ?_, admits, active⟩
  -- the gate looked at the group before the join, whose format admitting keeps
  rw [← same, admits.format]
  exact compatible

/-- The sample's server with one connection. -/
def joining : Server :=
  (make ⟨false, ""⟩ (.make Group.sample .empty)).run [.event "" (.connect "k" true none)]

/-- The connection of that server when it has sent a line. -/
def asking (line : String) : Session :=
  (Session.start (.make true none) joining.registry).got (Line.bytes line)

def joinLine : String := "JOIN 5 2 00026e3200000000000001680009000000000000"

def joinSession : Session :=
  (Session.start (.make true none) joining.registry).got (Line.bytes joinLine)

def joinedStream : String :=
  "000200066f726465727300000000000000000000000000000000000000020000000200000002|" ++
    "00026e3100000001010002646200070000000001010002c3a9|" ++
    "00026e3200000002000001680009000000000200"

theorem joined_node_is_admitted :
    joining.InUse ∧ joining.Midway "" "k" [] [.ok joinLine] [] joinSession ∧
      (joinSession.take joining.service "" (.ok joinLine)).replies =
        .group .v2 joinedStream :: joinSession.replies ∧
      ∃ version written n, Request.parse joinLine = .ok (.join version written n) ∧
        Group.ofStream joinedStream =
          .ok (joinSession.take joining.service "" (.ok joinLine)).registry.current ∧
        (joinSession.take joining.service "" (.ok joinLine)).registry.isActive n.name = true := by
  have used : joining.InUse := ⟨_, _, _, _, .read Group.read_sample, rfl⟩
  have midway : joining.Midway "" "k" [] [.ok joinLine] [] joinSession :=
    ⟨.make true none, Line.bytes joinLine, rfl, by decide +kernel, rfl, rfl⟩
  have answered : (joinSession.take joining.service "" (.ok joinLine)).replies =
      .group .v2 joinedStream :: joinSession.replies := by decide +kernel
  obtain ⟨version, written, n, parsed, read, -, -, -, active⟩ :=
    group_reply_admits used midway answered
  exact ⟨used, midway, answered, version, written, n, parsed, read, active⟩

end Server

end Roster

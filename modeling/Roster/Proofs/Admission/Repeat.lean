import Roster.Proofs.Admission.Dialogue
import Roster.Proofs.Admission.Join
import Roster.Proofs.Admission.Lineage

/-!
# Joining again

A node that has been admitted is a current member of its type at its address. If it joins again it is accepted
back as it is, whichever way it was admitted first. So it is sent the same group, and nothing is saved.
-/

namespace Roster

/-- A node is accepted back into a group that has admitted it. -/
theorem Registry.register_admitted {r : Registry} {g : Group} {n : Node} (admits : g.Admits n r.current) :
    r.register n = (.ok r.current, r) := by
  obtain ⟨m, known, current, kind, host, port⟩ := admits.member
  rw [register, known]
  simp [current, kind, host, port]

theorem Turn.sendGroup_of_written {g : Group} {stream : String} (written : g.stream = .ok stream)
    (held : Option String) (r : Registry) : sendGroup g held r = proceed (.group g.format stream) held r := by
  rw [sendGroup, written]

/-- A node that is sent the group is what the connection holds from then on. -/
theorem Turn.accept_of_group {n : Node} {held : Option String} {r : Registry} {format : FormatVersion}
    {stream : String} (reply : (accept n held r).reply = some (.group format stream)) :
    ∃ r', accept n held r = proceed (.group format stream) (some n.name) r' := by
  have sends : ∀ {g : Group} {r' : Registry}, accept n held r = sendGroup g (some n.name) r' →
      accept n held r = proceed (.group format stream) (some n.name) r' := by
    intro g r' eq
    rw [eq, sendGroup_reply_iff] at reply
    obtain ⟨rfl, written⟩ := reply
    exact eq.trans (sendGroup_of_written written _ _)
  cases accepting n held r with
  | refused _ _ other => exact absurd reply (other format stream)
  | again _ same eq =>
    subst same
    exact ⟨_, sends eq⟩
  | anew _ eq => exact ⟨_, sends eq⟩

namespace Service

variable {s : Service} {now line : String} {c : Connection} {r : Registry} {version : UInt32} {written : FormatVersion}
  {n : Node}

/-- The line is a join under the name that the group takes without an edit. On any connection that is served
and with any registry of that group it gets the reply, and neither the group nor the store changes. If the
connection holds the name, nothing does. -/
structure Repeats (s : Service) (line name : String) (reply : Reply) (g : Group) : Prop where
  holding (now : String) (c : Connection) (r : Registry) (heard : s.bars c = false) (current : r.current = g)
    (holds : c.held = some name) : s.answer now line c r = .proceed reply (some name) r
  any (now : String) (c : Connection) (r : Registry) (heard : s.bars c = false) (current : r.current = g) :
    ∃ r', s.answer now line c r = .proceed reply (some name) r' ∧ r'.current = r.current ∧ r'.store = r.store

/-- A line that has been answered by a group would be answered by it again. -/
theorem repeats_of_group {format : FormatVersion} {stream : String}
    (reply : (s.answer now line c r).reply = some (.group format stream)) :
    s.bars c = false ∧ ∃ name r', s.answer now line c r = .proceed (.group format stream) (some name) r' ∧
      s.Repeats line name (.group format stream) r'.current := by
  obtain ⟨version, _, n, g, after, heard, parsed, compatible, registered, rfl, written, eq⟩ := answer_group reply
  obtain ⟨admits, -⟩ := Registry.register_admits registered
  rw [eq] at reply
  obtain ⟨r', accepted⟩ := Turn.accept_of_group reply
  have met : r'.current = g := by
    have same := Turn.current_of_registered c.held registered
    rwa [accepted] at same
  -- the gate looks at the format alone, which is still the same
  have answers : ∀ now c' r'', s.bars c' = false → Registry.current r'' = g →
      s.answer now line c' r'' = Turn.accept n c'.held r'' ∧ r''.register n = (.ok g, r'') := by
    rintro now c' r'' heard' rfl
    refine ⟨answer_join heard' parsed ?_, Registry.register_admitted admits⟩
    rw [admits.format]
    exact compatible
  refine ⟨heard, n.name, r', eq.trans accepted, ?_⟩
  rw [met]
  constructor
  · intro now' c' r'' heard' current' holds
    obtain ⟨joined, registered'⟩ := answers now' c' r'' heard' current'
    rw [joined, Turn.accept_again registered' holds, Turn.sendGroup_of_written written, holds]
  · intro now' c' r'' heard' current'
    obtain ⟨joined, registered'⟩ := answers now' c' r'' heard' current'
    obtain ⟨kept, last, sends, same, store⟩ := Turn.accept_of_admitted c'.held registered'
    have reply' : (Turn.accept n c'.held r'').reply = some (.group g.format stream) := by
      rw [sends]
      exact Turn.sendGroup_reply_iff.mpr ⟨rfl, written⟩
    obtain ⟨last', accepted'⟩ := Turn.accept_of_group reply'
    have registry : last = last' := by
      have both := congrArg Turn.registry (sends.symm.trans accepted')
      rwa [Turn.sendGroup_registry] at both
    exact ⟨last', joined.trans accepted', registry ▸ same, registry ▸ store⟩

end Service

namespace Session

/-- What a session comes to that gets a reply and goes on with a registry. -/
theorem take_of_proceed {service : Service} {now line name : String} {s : Session} {reply : Reply} {r : Registry}
    (going : s.ended = none)
    (answered : service.answer now line s.connection s.registry = .proceed reply (some name) r) :
    s.take service now (.ok line) =
      ⟨{ s.connection with held := some name }, r, reply :: s.replies, none⟩ := by
  have going' : ¬ s.ended.isSome = true := by
    rw [going]
    exact Bool.false_ne_true
  rw [take_of_going going', answered]
  rfl

/-- A session gets a reply and goes on, and the group and the store are as they were. So is the whole registry
if the connection holds what is given. -/
structure Unmoved (s : Session) (reply : Reply) (held : Option String) (s' : Session) : Prop where
  replies : s'.replies = reply :: s.replies
  ended : s'.ended = none
  current : s'.registry.current = s.registry.current
  store : s'.registry.store = s.registry.store
  registry : s.connection.held = held → s'.registry = s.registry

variable {service : Service} {line name : String} {reply : Reply} {g : Group}

theorem unmoved_take {s : Session} (repeats : service.Repeats line name reply g) (going : s.ended = none)
    (heard : service.bars s.connection = false) (current : s.registry.current = g) (now : String) :
    s.Unmoved reply (some name) (s.take service now (.ok line)) := by
  obtain ⟨r, answered, same, store⟩ := repeats.any now s.connection s.registry heard current
  have eq := take_of_proceed going answered
  refine ⟨by rw [eq], by rw [eq], by rw [eq]; exact same, by rw [eq]; exact store, fun holds => ?_⟩
  have still := repeats.holding now s.connection s.registry heard current holds
  rw [take_of_proceed going still]

end Session

namespace Server

/-- A session that goes on is settled as it is. -/
theorem settle_of_going (key : String) {session : Session} (going : session.ended = none) (s : Server) :
    (s.settle key session).1 = .served session.replies.reverse none ∧
      (s.settle key session).2.registry = session.registry := by
  constructor
  · simp only [settle, going]
  · have kept : session.released = session.registry := by
      rw [Session.released, going]
      rfl
    exact kept

/-- A connection that is served sends the line to a server of the group: the reply is sent, and nothing is
published or saved. -/
theorem receive_repeated {s : Server} {key line name : String} {reply : Reply} {c : Connection}
    {bytes : List UInt8} {kept : LineBuffer} (repeats : s.service.Repeats line name reply s.registry.current)
    (known : s.connections.lookup key = some c) (heard : s.service.bars c = false)
    (completes : c.buffer.receive bytes = ([.ok line], kept)) (now : String) :
    let (outcome, s') := s.apply now (.receive key bytes)
    outcome = .served [reply] none ∧ s'.registry.current = s.registry.current ∧
      s'.registry.store = s.registry.store ∧ (c.held = some name → s'.registry = s.registry) := by
  have unmoved := Session.unmoved_take
    (s := { Session.start c s.registry with connection := { c with buffer := kept } }) repeats rfl heard rfl now
  have received : (Session.start c s.registry).receive s.service now bytes = _ := Session.receive_of completes
  obtain ⟨outcome, registry⟩ := s.settle_of_going key unmoved.ended
  rw [receive_known known, received]
  refine ⟨?_, ?_, ?_, ?_⟩
  · refine outcome.trans ?_
    rw [unmoved.replies]
    rfl
  · exact (congrArg Registry.current registry).trans unmoved.current
  · exact (congrArg Registry.store registry).trans unmoved.store
  · exact fun holds => registry.trans (unmoved.registry holds)

/-- Let a line be answered by a group. Taken again by the same session it gets the same reply and changes nothing
else. Taken by any other session that goes on, is served and has a registry of the same group, whichever saves
would fail, it gets the same reply, the session still goes on, and the group and the store are as they were;
so are the holds if the session's connection holds the same name. To a server of that group the line can come
on any connection that is served: the reply is sent and nothing is published or saved. -/
theorem join_is_idempotent {service : Service} {now line : String} {session : Session} {format : FormatVersion}
    {stream : String} (answered : (session.take service now (.ok line)).replies =
      .group format stream :: session.replies) :
    let after := session.take service now (.ok line)
    let reply := Reply.group format stream
    (∀ now', after.take service now' (.ok line) = { after with replies := reply :: after.replies }) ∧
    (∀ now' (other : Session), other.ended = none → service.bars other.connection = false →
      other.registry.current = after.registry.current →
      other.Unmoved reply after.connection.held (other.take service now' (.ok line))) ∧
    ∀ now' (s : Server) key c bytes kept, s.service = service →
      s.registry.current = after.registry.current → s.connections.lookup key = some c → service.bars c = false →
      c.buffer.receive bytes = ([.ok line], kept) →
      let (outcome, s') := s.apply now' (.receive key bytes)
      outcome = .served [reply] none ∧ s'.registry.current = s.registry.current ∧
        s'.registry.store = s.registry.store ∧ (c.held = after.connection.held → s'.registry = s.registry) := by
  intro after reply
  obtain ⟨told, taken⟩ := Session.take_replies answered
  obtain ⟨heard, name, r, accepted, repeats⟩ := Service.repeats_of_group told
  have shape : after = ⟨{ session.connection with held := some name }, r, reply :: session.replies, none⟩ := by
    rw [show after = _ from taken, accepted]
    rfl
  have held : after.connection.held = some name := congrArg (·.connection.held) shape
  have current : after.registry.current = r.current := congrArg (·.registry.current) shape
  rw [held, current]
  refine ⟨?_, ?_, ?_⟩
  · intro now'
    rw [shape]
    exact Session.take_of_proceed rfl (repeats.holding now' _ r heard rfl rfl)
  · exact fun now' other going heard' same => Session.unmoved_take repeats going heard' same now'
  · rintro now' s key c bytes kept rfl same known heard' completes
    exact receive_repeated (same ▸ repeats) known heard' completes now'

/-- The sample's server after its joiner has been admitted and another peer has connected. Saves fail now. -/
def crowded : Server :=
  let s := joining.run [.event "" (.receive "k" (Line.bytes joinLine)), .event "" (.connect "j" true none)]
  { s with registry := s.registry.facing [true] }

/-- The joiner is admitted as a new member, and then again on its own connection and on the other one. -/
theorem joined_node_joins_again :
    let after := joinSession.take joining.service "" (.ok joinLine)
    let reply := Reply.group .v2 joinedStream
    after.replies = [reply] ∧ (after.take joining.service "" (.ok joinLine)).replies = [reply, reply] ∧
      (crowded.apply "" (.receive "j" (Line.bytes joinLine))).1 = .served [reply] none ∧
      (crowded.apply "" (.receive "j" (Line.bytes joinLine))).2.registry.store = crowded.registry.store := by
  intro after reply
  have answered : after.replies = reply :: joinSession.replies := by decide +kernel
  obtain ⟨again, -, elsewhere⟩ := join_is_idempotent answered
  have service : crowded.service = joining.service := joining.run_service _
  have known : crowded.connections.lookup "j" = some (.make true none) := lookup_put_self "j" _ _
  obtain ⟨outcome, -, store, -⟩ := elsewhere "" crowded "j" (.make true none) (Line.bytes joinLine) .empty service
    (by decide +kernel) known rfl (by decide +kernel)
  refine ⟨answered, ?_, outcome, store⟩
  rw [again "", answered]
  rfl

end Server

end Roster

import Roster.Proofs.Admission.Barred
import Roster.Proofs.Admission.Join
import Roster.Proofs.Registry.Refusal

/-!
# Joins that are refused

A join that is answered by an error or by the gate has no effect, and one that has an effect is
answered by the group. A connection outlives an error, unless its peer is barred, and ends at the
gate; then it gives up what it held and nothing else.
-/

namespace Roster

/-- Why a line of a peer that is not barred is answered by an error. -/
inductive Service.Refusal (line : String) (r : Registry) : Reply → Prop
  | unread {e : AdmissionError} (unread : Request.parse line = .error e) : Refusal line r (.badRequest e)
  | refused {version : UInt32} {format : FormatVersion} {n : Node} {e : UpdateError}
      (parsed : Request.parse line = .ok (.join version format n))
      (compatible : Gate.check r.current.format version = .ok ())
      (refuses : r.Refuses n e) : Refusal line r (.error e.code e.message)

namespace Registry

/-- A registry with the group, the stored stream and the holds of another. -/
structure Same (r r' : Registry) : Prop where
  current : r'.current = r.current
  stream : r'.store.stream = r.store.stream
  holds : r'.holds = r.holds

end Registry

namespace Turn

theorem sendGroup_no_error {g : Group} {held : Option String} {r : Registry} {code message : String} :
    (sendGroup g held r).reply ≠ some (.error code message) := by
  rw [sendGroup]
  cases g.stream <;> simp [proceed, failWith]

/-- The verdict of the gate is not given behind the gate. -/
theorem accept_no_verdict {n : Node} {held : Option String} {r : Registry} {verdict : Incompatibility} :
    (accept n held r).reply ≠ some (.incompatible verdict) := by
  rcases registered : r.register n with ⟨result, after⟩
  cases result with
  | error fault =>
    cases fault with
    | exhausted => simp [accept_of_exhausted registered, failWith]
    | refused e => simp [accept_of_refused registered, refusal, proceed]
  | ok g =>
    obtain ⟨_, _, eq, -⟩ := accept_of_admitted held registered
    rw [eq, sendGroup]
    cases g.stream <;> simp [proceed, failWith]

/-- An accepted node that is answered by an error has been refused for a reason. -/
theorem accept_error {n : Node} {held : Option String} {r : Registry} {code message : String}
    (wf : r.current.WellFormed) (reply : (accept n held r).reply = some (.error code message)) :
    r.Same (accept n held r).registry ∧ (accept n held r).held = held ∧
      (accept n held r).ended = none ∧
      ∃ e, r.Refuses n e ∧ Reply.error code message = .error e.code e.message := by
  rcases registered : r.register n with ⟨result, after⟩
  cases result with
  | ok g =>
    obtain ⟨_, _, eq, -⟩ := accept_of_admitted held registered
    rw [eq] at reply
    exact absurd reply sendGroup_no_error
  | error fault =>
    obtain ⟨reason, current, holds, stream⟩ := Registry.register_eq_error wf registered
    rcases reason with ⟨e, rfl, refuses⟩ | ⟨rfl, -⟩
    · rw [accept_of_refused registered] at reply ⊢
      exact ⟨⟨current, stream, holds⟩, rfl, rfl, e, refuses, (Option.some.inj reply).symm⟩
    · rw [accept_of_exhausted registered] at reply
      cases reply

/-- A join that changes the group is answered by it. -/
theorem accept_changed {n : Node} {held : Option String} {r : Registry} (wf : r.current.WellFormed)
    (changed : (accept n held r).registry.current ≠ r.current) :
    ∃ format stream, (accept n held r).reply = some (.group format stream) := by
  rcases registered : r.register n with ⟨result, after⟩
  cases result with
  | error fault =>
    obtain ⟨-, current, -⟩ := Registry.register_eq_error wf registered
    refine absurd ?_ changed
    cases fault with
    | exhausted => rwa [accept_of_exhausted registered]
    | refused e => rwa [accept_of_refused registered]
  | ok g =>
    obtain ⟨-, current, -⟩ := Registry.register_admits registered
    obtain ⟨_, _, eq, same, -⟩ := accept_of_admitted held registered
    rw [eq, sendGroup_registry, same, current] at changed
    rw [eq]
    rcases Registry.register_stored registered with ⟨stream, written, -⟩ | ⟨unchanged, -⟩
    · exact ⟨_, _, sendGroup_reply_iff.mpr ⟨rfl, written⟩⟩
    · exact absurd unchanged changed

end Turn

namespace Service

variable {s : Service} {now line : String} {c : Connection} {r : Registry}

/-- A line that is answered by an error changes nothing, and the connection goes on unless its peer
is barred. -/
theorem answer_error {code message : String} (wf : r.current.WellFormed)
    (reply : (s.answer now line c r).reply = some (.error code message)) :
    r.Same (s.answer now line c r).registry ∧ (s.answer now line c r).held = c.held ∧
      ((s.answer now line c r).ended = none ∧ Refusal line r (.error code message) ∨
        s.bars c = true ∧ Reply.error code message = .untrusted) := by
  cases answers s now line c r with
  | barred barred eq =>
    rw [eq] at reply ⊢
    exact ⟨⟨rfl, rfl, rfl⟩, rfl, Or.inr ⟨barred, (Option.some.inj reply).symm⟩⟩
  | unread _ parsed eq =>
    rw [eq] at reply ⊢
    have told : Reply.badRequest _ = .error code message := Option.some.inj reply
    exact ⟨⟨rfl, rfl, rfl⟩, rfl, Or.inl ⟨rfl, told ▸ .unread parsed⟩⟩
  | status _ _ eq =>
    rw [eq] at reply
    cases reply
  | incompatible _ _ _ eq =>
    rw [eq] at reply
    cases reply
  | join _ parsed compatible eq =>
    rw [eq] at reply ⊢
    obtain ⟨same, kept, going, e, refuses, told⟩ := Turn.accept_error wf reply
    exact ⟨same, kept, Or.inl ⟨going, told ▸ .refused parsed compatible refuses⟩⟩

theorem answer_incompatible {verdict : Incompatibility}
    (reply : (s.answer now line c r).reply = some (.incompatible verdict)) :
    (s.answer now line c r).registry = r ∧ (s.answer now line c r).held = c.held ∧
      (s.answer now line c r).ended = some (.error (.refused (.incompatible verdict))) := by
  cases answers s now line c r with
  | incompatible _ _ _ eq =>
    rw [eq] at reply ⊢
    obtain rfl : _ = verdict := by simpa [Turn.failWith] using reply
    exact ⟨rfl, rfl, rfl⟩
  | join _ _ _ eq =>
    rw [eq] at reply
    exact absurd reply Turn.accept_no_verdict
  | barred _ eq | unread _ _ eq | status _ _ eq =>
    rw [eq] at reply
    cases reply

theorem answer_changed (wf : r.current.WellFormed)
    (changed : (s.answer now line c r).registry.current ≠ r.current) :
    ∃ format stream, (s.answer now line c r).reply = some (.group format stream) := by
  cases answering s now line c r with
  | aside registry _ _ _ => exact absurd (congrArg _ registry) changed
  | join _ _ eq _ =>
    rw [eq] at changed ⊢
    exact Turn.accept_changed wf changed

end Service

namespace Session

variable {s : Session} {service : Service} {now line : String}

/-- A session that has ended changes nothing. -/
theorem take_of_changed (changed : (s.take service now (.ok line)).registry.current ≠ s.registry.current) :
    s.take service now (.ok line) = s.apply (service.answer now line s.connection s.registry) := by
  rw [take.eq_def] at changed ⊢
  by_cases ended : s.ended.isSome = true
  · rw [if_pos ended] at changed
    exact absurd rfl changed
  · exact if_neg ended

theorem released_of_going (going : s.ended = none) : s.released = s.registry := by
  rw [released, going]
  rfl

theorem released_of_ended {ending : Ending} (ended : s.ended = some ending) :
    s.released = s.registry.letGo s.connection.held := by
  rw [released, ended]
  rfl

/-- An error leaves the session as it was but for the reply, unless the peer is barred. -/
theorem take_error {code message : String} (wf : s.registry.current.WellFormed)
    (nothing : service.bars s.connection = true → s.connection.held = none)
    (answered : (s.take service now (.ok line)).replies = .error code message :: s.replies) :
    s.registry.Same (s.take service now (.ok line)).released ∧
      ((s.take service now (.ok line)).ended = none ∧
          (s.take service now (.ok line)).connection = s.connection ∧
          Service.Refusal line s.registry (.error code message) ∨
        service.bars s.connection = true ∧ Reply.error code message = .untrusted) := by
  obtain ⟨reply, eq⟩ := take_replies answered
  obtain ⟨same, held, going⟩ := Service.answer_error wf reply
  have connection : (s.take service now (.ok line)).connection = s.connection := by
    rw [eq, apply, held]
  rcases going with ⟨going, refusal⟩ | ⟨barred, untrusted⟩
  · have ended : (s.take service now (.ok line)).ended = none := (congrArg _ eq).trans going
    rw [released_of_going ended, connection]
    refine ⟨?_, Or.inl ⟨ended, rfl, refusal⟩⟩
    rw [eq]
    exact same
  · -- a barred peer had nothing to give up
    have released : (s.take service now (.ok line)).released = (s.take service now (.ok line)).registry := by
      rw [Session.released, connection, nothing barred]
      exact ite_self _
    refine ⟨?_, Or.inr ⟨barred, untrusted⟩⟩
    rw [released, eq]
    exact same

/-- The verdict of the gate ends the connection, which gives up what it held and nothing else. -/
theorem take_incompatible {verdict : Incompatibility} {others : List String} (holds : s.Holds others)
    (answered : (s.take service now (.ok line)).replies = .incompatible verdict :: s.replies) :
    (s.take service now (.ok line)).released.current = s.registry.current ∧
      (s.take service now (.ok line)).released.store = s.registry.store ∧
      (s.take service now (.ok line)).ended = some (.error (.refused (.incompatible verdict))) ∧
      s.registry.holds.names.Perm
        (s.connection.held.toList ++ (s.take service now (.ok line)).released.holds.names) := by
  obtain ⟨reply, eq⟩ := take_replies answered
  obtain ⟨registry, held, verdict_ends⟩ := Service.answer_incompatible reply
  have ended : (s.take service now (.ok line)).ended = some (.error (.refused (.incompatible verdict))) :=
    (congrArg _ eq).trans verdict_ends
  have released : (s.take service now (.ok line)).released = s.registry.letGo s.connection.held := by
    rw [released_of_ended ended, eq, apply, registry, held]
  rw [released]
  exact ⟨Registry.letGo_current _ _, Registry.letGo_store _ _, ended,
    holds.trans ((Registry.letGo_holds holds).symm.append_left _)⟩

/-- A change of the group is told by the group. -/
theorem take_changes (wf : s.registry.current.WellFormed)
    (changed : (s.take service now (.ok line)).registry.current ≠ s.registry.current) :
    ∃ format stream, (s.take service now (.ok line)).replies = .group format stream :: s.replies := by
  have eq := take_of_changed changed
  rw [eq] at changed ⊢
  obtain ⟨format, stream, reply⟩ := Service.answer_changed wf changed
  refine ⟨format, stream, ?_⟩
  rw [apply, reply]
  rfl

end Session

namespace Server

/-- No connection of a barred peer holds a member. -/
def BarredHoldNothing (s : Server) : Prop :=
  ∀ key c, s.connections.lookup key = some c → s.service.bars c = true → c.held = none

variable {s : Server}

theorem BarredHoldNothing.act (h : s.BarredHoldNothing) (action : Action) :
    (s.act action).BarredHoldNothing := by
  intro key c known barred
  rw [act_service] at barred
  rcases act_connection action known with same | ⟨now, trusted, peer, -, rfl⟩ |
    ⟨now, bytes, before, -, earlier, rfl⟩
  · exact h key c same barred
  · rfl
  · have still : s.service.bars before = true := by
      rwa [Session.receive_eq, Service.bars, Session.takeAll_trusted] at barred
    have unheard : (Session.start before s.registry).Unheard s.service s.registry :=
      ⟨still, h key before earlier still, rfl, Or.inl rfl⟩
    exact (unheard.receive now bytes).held

theorem BarredHoldNothing.run (h : s.BarredHoldNothing) (actions : List Action) :
    (s.run actions).BarredHoldNothing := by
  induction actions generalizing s with
  | nil => exact h
  | cons action rest ih => exact ih (h.act action)

theorem InUse.barredHoldNothing (used : s.InUse) : s.BarredHoldNothing := by
  obtain ⟨service, group, store, actions, -, rfl⟩ := used
  have start : (make service (.make group store)).BarredHoldNothing := by
    intro key c known
    cases known
  exact start.run actions

theorem BarredHoldNothing.midway (h : s.BarredHoldNothing) {now key : String}
    {taken rest : List (Except AdmissionError String)} {log : List Group} {session : Session}
    (midway : s.Midway now key taken rest log session)
    (barred : s.service.bars session.connection = true) : session.connection.held = none := by
  obtain ⟨c, bytes, known, -, -, rfl⟩ := midway
  have still : s.service.bars c = true := by
    rwa [Service.bars, Session.takeAll_trusted] at barred
  have unheard : (Session.start c s.registry).Unheard s.service s.registry :=
    ⟨still, h key c known still, rfl, Or.inl rfl⟩
  exact ((unheard.got bytes).takeAll now taken).held

/-- Whatever has been done to a server and whatever lines have been taken before, a line that is
answered by an error leaves the group, the stored stream and the holds as they were; the connection
goes on as it was, unless its peer is barred. A line that is answered by the verdict of the gate
leaves the group and the stored stream as they were and ends the connection, and of the holds only
the connection's own is given up. And a line that changes the group is answered by a group. -/
theorem refused_join_changes_nothing (used : s.InUse) {now key line : String}
    {taken rest : List (Except AdmissionError String)} {log : List Group} {session : Session}
    (midway : s.Midway now key taken (.ok line :: rest) log session) :
    let after := session.take s.service now (.ok line)
    (∀ code message, after.replies = .error code message :: session.replies →
      session.registry.Same after.released ∧
        (after.ended = none ∧ after.connection = session.connection ∧
            Service.Refusal line session.registry (.error code message) ∨
          s.service.bars session.connection = true ∧ Reply.error code message = .untrusted)) ∧
    (∀ verdict, after.replies = .incompatible verdict :: session.replies →
      after.released.current = session.registry.current ∧
        after.released.store = session.registry.store ∧
        after.ended = some (.error (.refused (.incompatible verdict))) ∧
        session.registry.holds.names.Perm
          (session.connection.held.toList ++ after.released.holds.names)) ∧
    (after.registry.current ≠ session.registry.current →
      ∃ format stream, after.replies = .group format stream :: session.replies) := by
  have wf := (midway.follows.reachable used.reachable).wellFormed
  obtain ⟨others, holds⟩ := used.accounted.midway midway
  refine ⟨?_, ?_, ?_⟩
  · intro code message answered
    exact Session.take_error wf (used.barredHoldNothing.midway midway) answered
  · intro verdict answered
    exact Session.take_incompatible holds answered
  · intro changed
    exact Session.take_changes wf changed

/-- The sample's server with one connection and a store whose next save fails. -/
def unsaved : Server :=
  (make ⟨false, ""⟩ (.make Group.sample ⟨none, [true]⟩)).run [.event "" (.connect "k" true none)]

def unsavedSession : Session :=
  (Session.start (.make true none) unsaved.registry).got (Line.bytes joinLine)

theorem unsaved_join_changes_nothing :
    let after := unsavedSession.take unsaved.service "" (.ok joinLine)
    unsaved.InUse ∧ unsaved.Midway "" "k" [] [.ok joinLine] [] unsavedSession ∧
      after.replies = [.error "store_failed"
        "failed to persist membership: snapshot I/O on store: disk full"] ∧
      unsavedSession.registry.Same after.released ∧ after.ended = none := by
  intro after
  have used : unsaved.InUse := ⟨_, _, _, _, .read Group.read_sample, rfl⟩
  have midway : unsaved.Midway "" "k" [] [.ok joinLine] [] unsavedSession :=
    ⟨.make true none, Line.bytes joinLine, rfl, by decide +kernel, rfl, rfl⟩
  have answered : after.replies = [.error "store_failed"
      "failed to persist membership: snapshot I/O on store: disk full"] := by decide +kernel
  obtain ⟨same, ⟨going, -⟩ | ⟨barred, -⟩⟩ := (refused_join_changes_nothing used midway).1 _ _ answered
  · exact ⟨used, midway, answered, same, going⟩
  · cases barred

end Server

end Roster

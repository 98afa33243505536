import Roster.Proofs.Admission.Story
import Roster.Proofs.Group.RoundTrip

/-!
# Peers that are barred

A service that requires trusted peers bars the others. Whatever a barred peer sends, it is told at
most that it is not trusted, and to everybody else it is as if it had never come.
-/

namespace Roster

theorem Service.answer_of_bars {s : Service} {c : Connection} (barred : s.bars c = true)
    (now line : String) (r : Registry) :
    s.answer now line c r =
      .failWith (some .untrusted) (.refused (.untrusted c.peerText)) c.held r := if_pos barred

/-- A session with a barred peer, none of whose lines has been looked at. -/
structure Session.Unheard (service : Service) (r : Registry) (s : Session) : Prop where
  barred : service.bars s.connection = true
  held : s.connection.held = none
  registry : s.registry = r
  told : s.replies = [] ∨ s.replies = [.untrusted] ∧ s.ended.isSome = true

namespace Session.Unheard

variable {service : Service} {r : Registry} {s : Session}

theorem take (h : s.Unheard service r) (now : String) (line : Except AdmissionError String) :
    (s.take service now line).Unheard service r := by
  obtain ⟨barred, held, registry, told⟩ := h
  rw [Session.take.eq_def]
  by_cases ended : s.ended.isSome = true
  · rw [if_pos ended]
    exact ⟨barred, held, registry, told⟩
  · rw [if_neg ended]
    have silent : s.replies = [] := told.resolve_right fun h => ended h.2
    cases line with
    | error e => exact ⟨barred, held, registry, Or.inl silent⟩
    | ok text =>
      simp only [Service.answer_of_bars barred]
      exact ⟨barred, held, registry, Or.inr ⟨congrArg ([Reply.untrusted] ++ ·) silent, rfl⟩⟩

theorem takeAll (h : s.Unheard service r) (now : String)
    (lines : List (Except AdmissionError String)) : (s.takeAll service now lines).Unheard service r := by
  induction lines generalizing s with
  | nil => exact h
  | cons line rest ih => exact ih (h.take now line)

theorem got (h : s.Unheard service r) (bytes : List UInt8) : (s.got bytes).Unheard service r :=
  ⟨h.barred, h.held, h.registry, h.told⟩

theorem receive (h : s.Unheard service r) (now : String) (bytes : List UInt8) :
    (s.receive service now bytes).Unheard service r := by
  rw [receive_eq]
  exact (h.got bytes).takeAll now _

theorem finish (h : s.Unheard service r) (ending : Ending) : (s.finish ending).Unheard service r :=
  ⟨h.barred, h.held, h.registry, h.told.imp_right fun h => ⟨h.1, rfl⟩⟩

theorem endInput (h : s.Unheard service r) : s.endInput.Unheard service r := by
  rw [Session.endInput]
  split
  · exact h.finish _
  · exact h.finish _

theorem released (h : s.Unheard service r) : s.released = r := by
  rw [Session.released, h.held, h.registry]
  split <;> rfl

end Session.Unheard

namespace Server

/-- The same server if a connection were not there. -/
def without (key : String) (s : Server) : Server := { s with connections := drop key s.connections }

/-- Nobody but a barred peer, who holds nothing, is connected under a key. -/
def Excludes (s : Server) (key : String) : Prop :=
  ∀ c, s.connections.lookup key = some c → s.service.bars c = true ∧ c.held = none

/-- What a barred peer is told at most, and only once. -/
def Dismissed (key : String) (told : List UInt8) (after : Server) : Prop :=
  told = [] ∨ told = Line.bytes "ERROR untrusted peer is not trusted" ∧
    after.connections.lookup key = none

variable {s : Server} {key : String}

theorem Excludes.unheard (h : s.Excludes key) {c : Connection}
    (known : s.connections.lookup key = some c) :
    (Session.start c s.registry).Unheard s.service s.registry :=
  ⟨(h c known).1, (h c known).2, rfl, Or.inl rfl⟩

theorem Excludes.serve (h : s.Excludes key) {work : Session → Session}
    (deaf : ∀ {session : Session}, session.Unheard s.service s.registry →
      (work session).Unheard s.service s.registry) :
    (s.serve key work).2.without key = s.without key ∧
      Dismissed key (s.serve key work).1.bytes (s.serve key work).2 := by
  rw [Server.serve]
  cases known : s.connections.lookup key with
  | none => exact ⟨rfl, Or.inl rfl⟩
  | some c =>
    have after := deaf (h.unheard known)
    refine ⟨?_, ?_⟩
    · simp only [settle, without, after.released]
      cases (work (Session.start c s.registry)).ended <;> simp
    · rcases after.told with silent | ⟨told, ended⟩
      · refine Or.inl ?_
        simp [settle, Outcome.bytes, silent]
      · refine Or.inr ⟨?_, ?_⟩
        · have line : Reply.untrusted.line = "ERROR untrusted peer is not trusted" := by decide
          simp [settle, Outcome.bytes, told, line]
        · obtain ⟨ending, ended⟩ := Option.isSome_iff_exists.mp ended
          simp only [settle, ended]
          exact lookup_drop key s.connections

theorem Excludes.endInput (h : s.Excludes key) :
    (s.endInput key).2.without key = s.without key ∧
      Dismissed key (s.endInput key).1.bytes (s.endInput key).2 :=
  h.serve fun unheard => unheard.endInput

/-- What concerns a barred peer changes nothing but its own connection. -/
theorem Excludes.concerning (h : s.Excludes key) {action : Action}
    (concerns : action.concerns key = true) :
    (s.act action).without key = s.without key ∧
      Dismissed key (s.outcome action).bytes (s.act action) := by
  cases action with
  | update edit => cases concerns
  | event now e =>
    cases e with
    | connect other trusted peer =>
      obtain rfl : other = key := by simpa [Action.concerns, Event.connection?] using concerns
      have before := h.endInput.1
      refine ⟨?_, Or.inl rfl⟩
      rw [← before]
      simp [act, apply, connect, without]
    | receive other bytes =>
      obtain rfl : other = key := by simpa [Action.concerns, Event.connection?] using concerns
      exact h.serve fun unheard => unheard.receive now bytes
    | endInput other =>
      obtain rfl : other = key := by simpa [Action.concerns, Event.connection?] using concerns
      exact h.endInput
    | close other =>
      obtain rfl : other = key := by simpa [Action.concerns, Event.connection?] using concerns
      exact h.serve fun unheard => unheard.finish _
    | _ => cases concerns

/-- Every connection that is made under a key in these actions is that of an untrusted peer. -/
def OnlyUntrusted (key : String) (actions : List Action) : Prop :=
  ∀ now trusted peer, .event now (.connect key trusted peer) ∈ actions → trusted = false

theorem onlyUntrusted_cons {action : Action} {rest : List Action}
    (h : OnlyUntrusted key (action :: rest)) : OnlyUntrusted key [action] ∧ OnlyUntrusted key rest := by
  constructor
  · intro now trusted peer mem
    exact h now trusted peer (List.mem_cons.mpr (Or.inl (List.mem_singleton.mp mem)))
  · intro now trusted peer mem
    exact h now trusted peer (List.mem_cons_of_mem _ mem)

theorem Excludes.act (h : s.Excludes key) (requires : s.service.requireTrusted = true)
    {action : Action} (untrusted : OnlyUntrusted key [action]) : (s.act action).Excludes key := by
  intro c known
  rw [act_service]
  rcases act_connection action known with same | ⟨now, trusted, peer, rfl, rfl⟩ |
    ⟨now, bytes, before, -, earlier, rfl⟩
  · exact h c same
  · have stranger := untrusted now trusted peer List.mem_cons_self
    exact ⟨by simp [Service.bars, requires, Connection.make, stranger], rfl⟩
  · have after := (h.unheard earlier).receive now bytes
    exact ⟨after.barred, after.held⟩

theorem Excludes.run (h : s.Excludes key) (requires : s.service.requireTrusted = true)
    {actions : List Action} (untrusted : OnlyUntrusted key actions) :
    (s.run actions).Excludes key := by
  induction actions generalizing s with
  | nil => exact h
  | cons action rest ih =>
    obtain ⟨first, later⟩ := onlyUntrusted_cons untrusted
    refine ih (h.act requires first) ?_ later
    rw [act_service]
    exact requires

/-- Work on another connection does not see whether this one is there. -/
theorem serve_without {other : String} (apart : key ≠ other) (s : Server) (work : Session → Session) :
    (s.without key).serve other work = ((s.serve other work).1, (s.serve other work).2.without key) := by
  have same : (s.without key).connections.lookup other = s.connections.lookup other :=
    lookup_drop_of_ne (Ne.symm apart) _
  rw [Server.serve, Server.serve, same]
  cases s.connections.lookup other with
  | none => rfl
  | some c =>
    simp only [settle, without]
    cases (work (Session.start c s.registry)).ended with
    | none => rw [drop_put_of_ne apart]
    | some ending => rw [drop_comm]

theorem act_without {action : Action} (apart : action.concerns key = false) (s : Server) :
    (s.without key).act action = (s.act action).without key ∧
      (s.without key).outcome action = s.outcome action := by
  have other_key : ∀ {now e other}, action = .event now e → e.connection? = some other → key ≠ other := by
    rintro now e other rfl hother rfl
    simp [Action.concerns, hother] at apart
  cases action with
  | update edit => exact ⟨rfl, rfl⟩
  | event now e =>
    have served : ∀ {other : String} (work : Session → Session), key ≠ other →
        ((s.without key).serve other work).2 = (s.serve other work).2.without key ∧
          ((s.without key).serve other work).1 = (s.serve other work).1 := by
      intro other work ne
      rw [serve_without ne]
      exact ⟨rfl, rfl⟩
    cases e with
    | activate guard name =>
      simp only [Server.act, outcome, apply, activate, without]
      cases s.registry.activate name <;> exact ⟨rfl, rfl⟩
    | release guard =>
      simp only [Server.act, outcome, apply, release, without]
      cases s.guards.lookup guard <;> exact ⟨rfl, rfl⟩
    | connect other trusted peer =>
      have ne := other_key rfl rfl
      have before : ((s.without key).endInput other).2 = (s.endInput other).2.without key :=
        (served Session.endInput ne).1
      refine ⟨?_, rfl⟩
      simp only [Server.act, apply, connect, before]
      simp only [without, drop_put_of_ne ne]
    | receive other bytes => exact served _ (other_key rfl rfl)
    | endInput other => exact served _ (other_key rfl rfl)
    | close other => exact served _ (other_key rfl rfl)
    | _ => exact ⟨rfl, rfl⟩

/-- Without what concerns a barred peer, a run is told as it is but for that. -/
theorem Excludes.story (h : s.Excludes key) (requires : s.service.requireTrusted = true)
    {actions : List Action} (untrusted : OnlyUntrusted key actions) :
    (s.story actions).filter (fun entry => !entry.1.concerns key) =
      (s.without key).story (actions.filter fun action => !action.concerns key) := by
  induction actions generalizing s with
  | nil => rfl
  | cons action rest ih =>
    obtain ⟨first, later⟩ := onlyUntrusted_cons untrusted
    have tail := ih (h.act requires first) ((congrArg _ (act_service s action)).trans requires) later
    cases concerns : action.concerns key with
    | true =>
      rw [(h.concerning concerns).1] at tail
      simpa [Server.story, concerns] using tail
    | false =>
      obtain ⟨same, told⟩ := act_without concerns s
      simp only [Server.story, List.filter_cons, concerns, Bool.not_false, if_true, told, same]
      rw [tail]

theorem act_absent (absent : s.connections.lookup key = none) {action : Action}
    (old : action.connects key = false) : (s.act action).connections.lookup key = none := by
  cases after : (s.act action).connections.lookup key with
  | none => rfl
  | some c =>
    rcases act_connection action after with same | ⟨now, trusted, peer, rfl, -⟩ |
      ⟨now, bytes, before, -, earlier, -⟩
    · exact absurd (absent.symm.trans same) (Option.some_ne_none c).symm
    · simp [Action.connects] at old
    · exact absurd (absent.symm.trans earlier) (Option.some_ne_none before).symm

theorem excludes_of_absent (absent : s.connections.lookup key = none) : s.Excludes key :=
  fun c known => absurd (absent.symm.trans known) (Option.some_ne_none c).symm

theorem outcome_absent (absent : s.connections.lookup key = none) {action : Action}
    (old : action.connects key = false) (concerns : action.concerns key = true) :
    (s.outcome action).bytes = [] := by
  have unserved : ∀ work : Session → Session, (s.serve key work).1.bytes = [] := by
    intro work
    rw [Server.serve, absent]
    rfl
  cases action with
  | update edit => cases concerns
  | event now e =>
    have same : e.connection? = some key := by simpa [Action.concerns] using concerns
    cases e with
    | connect other trusted peer =>
      cases same
      simp [Action.connects] at old
    | receive other bytes =>
      cases same
      exact unserved _
    | endInput other =>
      cases same
      exact unserved _
    | close other =>
      cases same
      exact unserved _
    | _ => cases concerns

/-- Nothing is sent to a connection that is not there and does not come about. -/
theorem sent_absent (absent : s.connections.lookup key = none) {actions : List Action}
    (old : ∀ action ∈ actions, action.connects key = false) :
    s.sent key actions = [] ∧ (s.run actions).connections.lookup key = none := by
  induction actions generalizing s with
  | nil => exact ⟨rfl, absent⟩
  | cons action rest ih =>
    obtain ⟨first, later⟩ := List.forall_mem_cons.mp old
    obtain ⟨silent, gone⟩ := ih (act_absent absent first) later
    refine ⟨?_, gone⟩
    rw [sent_cons, silent, List.append_nil]
    split
    · exact outcome_absent absent first ‹_›
    · rfl

theorem onlyUntrusted_of_old {actions : List Action}
    (old : ∀ action ∈ actions, action.connects key = false) : OnlyUntrusted key actions := by
  intro now trusted peer mem
  have connects := old _ mem
  simp [Action.connects] at connects

/-- From its start to its end, a barred peer's connection is sent one line at most. -/
theorem Excludes.sent (h : s.Excludes key) (requires : s.service.requireTrusted = true)
    {actions : List Action} (old : ∀ action ∈ actions, action.connects key = false) :
    Dismissed key (s.sent key actions) (s.run actions) := by
  induction actions generalizing s with
  | nil => exact Or.inl rfl
  | cons action rest ih =>
    obtain ⟨first, later⟩ := List.forall_mem_cons.mp old
    have next := h.act requires (onlyUntrusted_of_old (List.forall_mem_singleton.mpr first))
    have tail := ih next ((congrArg _ (act_service s action)).trans requires) later
    rw [sent_cons]
    cases concerns : action.concerns key with
    | false => exact tail
    | true =>
      rcases (h.concerning concerns).2 with silent | ⟨told, gone⟩
      · rw [if_pos rfl, silent]
        exact tail
      · -- once told, the connection is gone, so nothing more is sent
        obtain ⟨silent, last⟩ := sent_absent gone later
        refine Or.inr ⟨?_, last⟩
        rw [if_pos rfl, told, silent, List.append_nil]

theorem Excludes.sent_from (h : s.Excludes key) (requires : s.service.requireTrusted = true)
    {start : Action} (connects : start.connects key = true) (untrusted : OnlyUntrusted key [start])
    {actions : List Action} (old : ∀ action ∈ actions, action.connects key = false) :
    Dismissed key (s.sent key (start :: actions)) (s.run (start :: actions)) := by
  have silent : (s.outcome start).bytes = [] := by
    cases start with
    | update edit => cases connects
    | event now e =>
      cases e with
      | connect other trusted peer => rfl
      | _ => cases connects
  have later := (h.act requires untrusted).sent ((congrArg _ (act_service s start)).trans requires) old
  rw [sent_cons, silent, ite_self]
  exact later

theorem Midway.unheard (h : s.Excludes key) {now : String}
    {taken rest : List (Except AdmissionError String)} {log : List Group} {session : Session}
    (midway : s.Midway now key taken rest log session) :
    session.Unheard s.service s.registry := by
  obtain ⟨c, bytes, known, -, -, rfl⟩ := midway
  exact ((h.unheard known).got bytes).takeAll now taken

/-- Let a service require trusted peers, and let every connection under a key that is free at first
be that of an untrusted peer, whatever bytes it sends and however they are cut. No action of that
peer, and no line within one, changes the group, the store or the holds. From its start on, a
connection of that peer is sent nothing, or one line with which it is over. And the same run
without the actions of that peer gives every other action the same outcome, down to the times in
it, which actions bring with them. -/
theorem untrusted_peer_changes_nothing (requires : s.service.requireTrusted = true)
    (free : s.connections.lookup key = none) {actions : List Action}
    (untrusted : OnlyUntrusted key actions) :
    (∀ before action after, actions = before ++ action :: after → action.concerns key = true →
      ((s.run before).act action).registry = (s.run before).registry ∧
      ∀ now taken rest log session, (s.run before).Midway now key taken rest log session →
        session.registry = (s.run before).registry) ∧
    (∀ before start during after, actions = before ++ start :: (during ++ after) →
      start.connects key = true → (∀ action ∈ during, action.connects key = false) →
      Dismissed key ((s.run before).sent key (start :: during)) ((s.run before).run (start :: during))) ∧
    (s.story actions).filter (fun entry => !entry.1.concerns key) =
      s.story (actions.filter fun action => !action.concerns key) := by
  have excluded := excludes_of_absent free
  have sofar : ∀ before after, actions = before ++ after → (s.run before).Excludes key := by
    rintro before after rfl
    exact excluded.run requires fun now trusted peer mem =>
      untrusted now trusted peer (List.mem_append_left after mem)
  refine ⟨?_, ?_, ?_⟩
  · intro before action after split concerns
    have now_excluded := sofar before _ split
    have same := (now_excluded.concerning concerns).1
    have registry : ((s.run before).act action).registry = (s.run before).registry :=
      (congrArg Server.registry same : ((s.run before).act action |>.without key).registry = _)
    exact ⟨registry, fun _ _ _ _ _ midway => (Midway.unheard now_excluded midway).registry⟩
  · intro before start during after split connects old
    have stranger : OnlyUntrusted key [start] := fun now trusted peer mem =>
      untrusted now trusted peer (by simp [split, List.mem_singleton.mp mem])
    have requires_still : (s.run before).service.requireTrusted = true := by
      rw [run_service]
      exact requires
    exact (sofar before _ split).sent_from requires_still connects stranger old
  · have removed : s.without key = s := by
      rw [without, drop_eq_self free]
    have told := excluded.story requires untrusted
    rwa [removed] at told

/-- An untrusted peer asks to join a group while a trusted one looks at it. -/
def visit : List Action :=
  [.event "" (.connect "x" false none), .event "" (.connect "k" true none),
    .event "" (.receive "x" (Line.bytes "JOIN 5 2 00026e3200000000000001680009000000000000")),
    .event "" (.receive "k" (Line.bytes "STATUS")), .event "" (.remove "n1")]

theorem visit_changes_nothing :
    let s := make ⟨true, ""⟩ (.make Group.sample .empty)
    s.service.requireTrusted = true ∧ s.connections.lookup "x" = none ∧ OnlyUntrusted "x" visit ∧
      s.sent "x" visit = Line.bytes "ERROR untrusted peer is not trusted" ∧
      ((s.run (visit.take 2)).act (visit[2])).registry = (s.run (visit.take 2)).registry ∧
      (s.story visit).filter (fun entry => !entry.1.concerns "x") =
        s.story [visit[1], visit[3], visit[4]] := by
  have untrusted : OnlyUntrusted "x" visit := by
    intro now trusted peer mem
    simp [visit] at mem
    exact mem.2.1
  obtain ⟨unmoved, -, removed⟩ := untrusted_peer_changes_nothing
    (s := make ⟨true, ""⟩ (.make Group.sample .empty)) rfl rfl untrusted
  exact ⟨rfl, rfl, untrusted, by decide +kernel, (unmoved (visit.take 2) _ (visit.drop 3) rfl rfl).1, removed⟩

end Server

end Roster

import Roster.Admission.Session
import Roster.Proofs.Registry.Register

/-!
# What answering a line does

Only a join that passes the gate touches the registry. It registers its node first; whatever then
becomes of the holds, the group and the store stay as registering left them.
-/

namespace Roster

namespace Turn

@[simp] theorem sendGroup_registry (g : Group) (held : Option String) (r : Registry) :
    (sendGroup g held r).registry = r := by
  rw [sendGroup]
  cases g.stream <;> rfl

@[simp] theorem sendGroup_held (g : Group) (held : Option String) (r : Registry) :
    (sendGroup g held r).held = held := by
  rw [sendGroup]
  cases g.stream <;> rfl

theorem sendGroup_reply_iff {g : Group} {held : Option String} {r : Registry} {format : FormatVersion}
    {stream : String} :
    (sendGroup g held r).reply = some (.group format stream) ↔
      g.format = format ∧ g.stream = .ok stream := by
  rw [sendGroup]
  cases g.stream <;> simp [proceed, failWith]

section Accept

variable {n : Node} {held : Option String} {r after : Registry} {g : Group}

theorem accept_of_refused {e : UpdateError} (h : r.register n = (.error (.refused e), after)) :
    accept n held r = refusal e held after := by
  rw [accept, h]

theorem accept_of_exhausted (h : r.register n = (.error .exhausted, after)) :
    accept n held r = failWith none .exhausted held after := by
  rw [accept, h]

theorem accept_again (h : r.register n = (.ok g, after)) (same : held = some n.name) :
    accept n held r = sendGroup g held after := by
  rw [accept, h]
  exact if_pos same

/-- A node that is registered is a current member, so its hold is never refused. -/
theorem accept_anew (h : r.register n = (.ok g, after)) (other : held ≠ some n.name) :
    accept n held r = sendGroup g (some n.name)
      (Registry.letGo held { after with holds := after.holds.acquire n.name }) := by
  obtain ⟨admits, current, -⟩ := Registry.register_admits h
  have active := Registry.activate_eq_ok_iff.mpr ⟨current ▸ admits.hasMember, rfl⟩
  rw [accept, h]
  simp only [if_neg other, active]

theorem accept_of_admitted (held : Option String) (h : r.register n = (.ok g, after)) :
    ∃ kept r', accept n held r = sendGroup g kept r' ∧ r'.current = after.current ∧
      r'.store = after.store := by
  by_cases same : held = some n.name
  · exact ⟨held, after, accept_again h same, rfl, rfl⟩
  · exact ⟨_, _, accept_anew h same, Registry.letGo_current held _, Registry.letGo_store held _⟩

end Accept

/-- How accepting a joining node can go. -/
inductive Accepting (n : Node) (held : Option String) (r : Registry) : Prop
  | refused (registry : (accept n held r).registry = (r.register n).2)
      (kept : (accept n held r).held = held)
      (reply : ∀ format stream, (accept n held r).reply ≠ some (.group format stream))
  | again {g : Group} {after : Registry} (admitted : r.register n = (.ok g, after))
      (holds : held = some n.name) (eq : accept n held r = sendGroup g held after)
  | anew {g : Group} {after : Registry} (admitted : r.register n = (.ok g, after))
      (eq : accept n held r = sendGroup g (some n.name)
        (Registry.letGo held { after with holds := after.holds.acquire n.name }))

theorem accepting (n : Node) (held : Option String) (r : Registry) : Accepting n held r := by
  rcases register : r.register n with ⟨result, after⟩
  cases result with
  | error fault =>
    cases fault with
    | exhausted =>
      refine .refused ?_ ?_ ?_
      all_goals simp [accept_of_exhausted register, register, failWith]
    | refused e =>
      refine .refused ?_ ?_ ?_
      all_goals simp [accept_of_refused register, register, refusal, proceed]
  | ok g =>
    by_cases same : held = some n.name
    · exact .again register same (accept_again register same)
    · exact .anew register (accept_anew register same)

/-- Whatever becomes of the holds, the group is the one that registering leaves. -/
theorem accept_current (n : Node) (held : Option String) (r : Registry) :
    (accept n held r).registry.current = (r.register n).2.current := by
  cases accepting n held r with
  | refused registry _ _ => rw [registry]
  | again admitted _ eq => rw [eq, sendGroup_registry, admitted]
  | anew admitted eq => rw [eq, sendGroup_registry, Registry.letGo_current, admitted]

theorem current_of_registered {n : Node} {r after : Registry} {g : Group} (held : Option String)
    (registered : r.register n = (.ok g, after)) : (accept n held r).registry.current = g := by
  obtain ⟨-, current, -⟩ := Registry.register_admits registered
  rw [accept_current, registered]
  exact current

theorem accept_follows (n : Node) (held : Option String) (r : Registry) :
    r.Follows (r.registration n) (accept n held r).registry := by
  have registered := Registry.register_follows n r
  cases accepting n held r with
  | refused registry _ _ =>
    rw [registry]
    exact registered
  | again admitted _ eq =>
    rw [eq, sendGroup_registry]
    rw [admitted] at registered
    exact registered
  | anew admitted eq =>
    rw [eq, sendGroup_registry]
    rw [admitted] at registered
    exact registered.then_same (Registry.letGo_current held _) (congrArg _ (Registry.letGo_store held _))

end Turn

namespace Service

/-- The groups that answering a line publishes. -/
def publishes (s : Service) (line : String) (c : Connection) (r : Registry) : List Group :=
  if s.requireTrusted && !c.trusted then []
  else
    match Request.parse line with
    | .ok (.join stream _ n) =>
      match Gate.check r.current.format stream with
      | .ok () => r.registration n
      | .error _ => []
    | _ => []

/-- The service requires trusted peers and this one is not trusted. -/
def bars (s : Service) (c : Connection) : Bool := s.requireTrusted && !c.trusted

/-- How a line can be answered. -/
inductive Answers (s : Service) (now line : String) (c : Connection) (r : Registry) : Prop
  | barred (barred : s.bars c = true) (eq : s.answer now line c r =
      .failWith (some .untrusted) (.refused (.untrusted c.peerText)) c.held r)
  | unread {e : AdmissionError} (heard : s.bars c = false) (parsed : Request.parse line = .error e)
      (eq : s.answer now line c r = .proceed (.badRequest e) c.held r)
  | status (heard : s.bars c = false) (parsed : Request.parse line = .ok .status)
      (eq : s.answer now line c r = .proceed (.status (s.report now r)) c.held r)
  | incompatible {version : UInt32} {format : FormatVersion} {n : Node} {verdict : Incompatibility}
      (heard : s.bars c = false) (parsed : Request.parse line = .ok (.join version format n))
      (incompatible : Gate.check r.current.format version = .error verdict)
      (eq : s.answer now line c r =
        .failWith (some (.incompatible verdict)) (.refused (.incompatible verdict)) c.held r)
  | join {version : UInt32} {format : FormatVersion} {n : Node} (heard : s.bars c = false)
      (parsed : Request.parse line = .ok (.join version format n))
      (compatible : Gate.check r.current.format version = .ok ())
      (eq : s.answer now line c r = Turn.accept n c.held r)

theorem answers (s : Service) (now line : String) (c : Connection) (r : Registry) :
    Answers s now line c r := by
  have def_eq := answer.eq_1 s now line c r
  by_cases barred : s.bars c = true
  · exact .barred barred (def_eq.trans (if_pos barred))
  have heard : s.bars c = false := Bool.eq_false_iff.mpr barred
  rw [if_neg (show ¬ (s.requireTrusted && !c.trusted) = true from barred)] at def_eq
  cases parsed : Request.parse line with
  | error e =>
    rw [parsed] at def_eq
    exact .unread heard parsed def_eq
  | ok request =>
    rw [parsed] at def_eq
    cases request with
    | status => exact .status heard parsed def_eq
    | join version format n =>
      simp only [Turn.join] at def_eq
      cases compatible : Gate.check r.current.format version with
      | error verdict =>
        rw [compatible] at def_eq
        exact .incompatible heard parsed compatible def_eq
      | ok =>
        rw [compatible] at def_eq
        exact .join heard parsed compatible def_eq

theorem answer_join {s : Service} {now line : String} {c : Connection} {r : Registry} {version : UInt32}
    {written : FormatVersion} {n : Node} (heard : s.bars c = false)
    (parsed : Request.parse line = .ok (.join version written n))
    (compatible : Gate.check r.current.format version = .ok ()) :
    s.answer now line c r = Turn.accept n c.held r := by
  have admitted : ¬ (s.requireTrusted && !c.trusted) = true := Bool.eq_false_iff.mp heard
  rw [answer, if_neg admitted, parsed]
  simp only [Turn.join, compatible]

/-- A line is answered without a look at the registry's members, or it is a join that passes the
gate. -/
inductive Answering (s : Service) (now line : String) (c : Connection) (r : Registry) : Prop
  | aside (registry : (s.answer now line c r).registry = r) (kept : (s.answer now line c r).held = c.held)
      (reply : ∀ format stream, (s.answer now line c r).reply ≠ some (.group format stream))
      (quiet : s.publishes line c r = [])
  | join {stream : UInt32} {format : FormatVersion} {n : Node}
      (parsed : Request.parse line = .ok (.join stream format n))
      (compatible : Gate.check r.current.format stream = .ok ())
      (eq : s.answer now line c r = Turn.accept n c.held r)
      (publishes : s.publishes line c r = r.registration n)

theorem publishes_of_heard {s : Service} {line : String} {c : Connection} {r : Registry}
    (heard : s.bars c = false) : s.publishes line c r =
      match Request.parse line with
      | .ok (.join stream _ n) =>
        match Gate.check r.current.format stream with
        | .ok () => r.registration n
        | .error _ => []
      | _ => [] :=
  if_neg (Bool.eq_false_iff.mp heard)

theorem answering (s : Service) (now line : String) (c : Connection) (r : Registry) :
    Answering s now line c r := by
  cases answers s now line c r with
  | barred barred eq =>
    refine .aside ?_ ?_ ?_ (if_pos barred)
    all_goals simp [eq, Turn.failWith, Reply.untrusted]
  | unread heard parsed eq =>
    refine .aside ?_ ?_ ?_ (by rw [publishes_of_heard heard, parsed])
    all_goals simp [eq, Turn.proceed, Reply.badRequest]
  | status heard parsed eq =>
    refine .aside ?_ ?_ ?_ (by rw [publishes_of_heard heard, parsed])
    all_goals simp [eq, Turn.proceed]
  | incompatible heard parsed incompatible eq =>
    refine .aside ?_ ?_ ?_ (by simp only [publishes_of_heard heard, parsed, incompatible])
    all_goals simp [eq, Turn.failWith]
  | join heard parsed compatible eq =>
    exact .join parsed compatible eq (by simp only [publishes_of_heard heard, parsed, compatible])

/-- A line that is answered by a group is a join whose node has been registered in that group. -/
theorem answer_group {s : Service} {now line : String} {c : Connection} {r : Registry} {format : FormatVersion}
    {stream : String} (reply : (s.answer now line c r).reply = some (.group format stream)) :
    ∃ version written n g after, s.bars c = false ∧ Request.parse line = .ok (.join version written n) ∧
      Gate.check r.current.format version = .ok () ∧ r.register n = (.ok g, after) ∧ g.format = format ∧
      g.stream = .ok stream ∧ s.answer now line c r = Turn.accept n c.held r := by
  cases answers s now line c r with
  | barred _ eq | unread _ _ eq | status _ _ eq | incompatible _ _ _ eq =>
    rw [eq] at reply
    cases reply
  | join heard parsed compatible eq =>
    rw [eq] at reply
    cases Turn.accepting _ c.held r with
    | refused _ _ other => exact absurd reply (other format stream)
    | again admitted _ sends =>
      rw [sends, Turn.sendGroup_reply_iff] at reply
      exact ⟨_, _, _, _, _, heard, parsed, compatible, admitted, reply.1, reply.2, eq⟩
    | anew admitted sends =>
      rw [sends, Turn.sendGroup_reply_iff] at reply
      exact ⟨_, _, _, _, _, heard, parsed, compatible, admitted, reply.1, reply.2, eq⟩

theorem answer_follows (s : Service) (now line : String) (c : Connection) (r : Registry) :
    r.Follows (s.publishes line c r) (s.answer now line c r).registry := by
  cases answering s now line c r with
  | aside registry _ _ quiet =>
    rw [registry, quiet]
    exact .refl r
  | join _ _ eq publishes =>
    rw [eq, publishes]
    exact Turn.accept_follows _ c.held r

end Service

end Roster

import Roster.Admission.Helper
import Roster.Proofs.Admission.Holders

/-!
# What a run shows

Operators see the outcomes of what they do, and the peers of connections see the bytes that are
sent to them. An action concerns at most one connection, and only what concerns a connection can
bring it about, change it or end it.
-/

namespace Roster

/-- The connection that an event is news of. -/
def Event.connection? : Event → Option String
  | .connect key _ _ => some key
  | .receive key _ => some key
  | .endInput key => some key
  | .close key => some key
  | _ => none

def Action.concerns (key : String) : Action → Bool
  | .event _ e => e.connection? == some key
  | .update _ => false

/-- The action is the start of a connection under a key. -/
def Action.connects (key : String) : Action → Bool
  | .event _ (.connect other _ _) => other == key
  | _ => false

namespace Session

@[simp] theorem take_trusted (service : Service) (now : String) (s : Session)
    (line : Except AdmissionError String) :
    (s.take service now line).connection.trusted = s.connection.trusted := by
  rw [take.eq_def]
  by_cases ended : s.ended.isSome = true
  · rw [if_pos ended]
  · rw [if_neg ended]
    cases line <;> rfl

@[simp] theorem takeAll_trusted (service : Service) (now : String) (s : Session)
    (lines : List (Except AdmissionError String)) :
    (s.takeAll service now lines).connection.trusted = s.connection.trusted := by
  induction lines generalizing s with
  | nil => rfl
  | cons line rest ih => exact (ih _).trans (take_trusted service now s line)

end Session

namespace Server

section Entries

variable {α : Type} {key other : String}

theorem lookup_put_self (key : String) (a : α) (entries : List (String × α)) :
    (put key a entries).lookup key = some a := by
  simp [put]

theorem lookup_drop_of_ne (h : key ≠ other) (entries : List (String × α)) :
    (drop other entries).lookup key = entries.lookup key := by
  induction entries with
  | nil => rfl
  | cons e rest ih =>
    obtain ⟨k, a⟩ := e
    by_cases same : k = other
    · subst same
      have dropped : drop k ((k, a) :: rest) = drop k rest := by simp [drop]
      rw [dropped, ih, List.lookup_cons, beq_eq_false_iff_ne.mpr h]
    · have kept : drop other ((k, a) :: rest) = (k, a) :: drop other rest := by simp [drop, same]
      rw [kept, List.lookup_cons, List.lookup_cons, ih]

theorem lookup_put_of_ne (h : key ≠ other) (a : α) (entries : List (String × α)) :
    (put other a entries).lookup key = entries.lookup key := by
  have dropped := lookup_drop_of_ne h entries
  rw [put, List.lookup_cons, beq_eq_false_iff_ne.mpr h]
  exact dropped

@[simp] theorem drop_drop (key : String) (entries : List (String × α)) :
    drop key (drop key entries) = drop key entries := by
  simp [drop]

@[simp] theorem drop_put (key : String) (a : α) (entries : List (String × α)) :
    drop key (put key a entries) = drop key entries := by
  simp [drop, put]

@[simp] theorem put_put (key : String) (a b : α) (entries : List (String × α)) :
    put key a (put key b entries) = put key a entries :=
  congrArg ((key, a) :: ·) (drop_put key b entries)

theorem drop_comm (key other : String) (entries : List (String × α)) :
    drop key (drop other entries) = drop other (drop key entries) := by
  simp only [drop, List.filter_filter, Bool.and_comm]

theorem drop_put_of_ne (h : key ≠ other) (a : α) (entries : List (String × α)) :
    drop key (put other a entries) = put other a (drop key entries) := by
  have kept : drop key (put other a entries) = (other, a) :: drop key (drop other entries) := by
    simp [drop, put, Ne.symm h]
  rw [kept, drop_comm]
  rfl

end Entries

/-- What an action brings about. -/
def outcome (s : Server) : Action → Outcome
  | .event now event => (s.apply now event).1
  | .update edit => (s.publish (·.update edit.run)).1

/-- The actions of a run, each with its outcome. -/
def story (s : Server) : List Action → List (Action × Outcome)
  | [] => []
  | action :: rest => (action, s.outcome action) :: (s.act action).story rest

/-- The bytes that a run sends to the peer of a connection. -/
def sent (s : Server) (key : String) (actions : List Action) : List UInt8 :=
  (s.story actions).flatMap fun (action, outcome) => if action.concerns key then outcome.bytes else []

variable {s : Server}

theorem sent_cons (s : Server) (key : String) (action : Action) (rest : List Action) :
    s.sent key (action :: rest) =
      (if action.concerns key then (s.outcome action).bytes else []) ++ (s.act action).sent key rest :=
  rfl

theorem serve_service (s : Server) (key : String) (work : Session → Session) :
    (s.serve key work).2.service = s.service := by
  rw [serve]
  cases s.connections.lookup key <;> rfl

/-- How connections are served is settled once and for all. -/
@[simp] theorem act_service (s : Server) (action : Action) : (s.act action).service = s.service := by
  cases action with
  | update edit => rfl
  | event now event =>
    cases event with
    | activate guard name =>
      simp only [act, apply, activate]
      split <;> rfl
    | release guard =>
      simp only [act, apply, release]
      split <;> rfl
    | connect key trusted peer => exact serve_service s key _
    | receive key bytes => exact serve_service s key _
    | endInput key => exact serve_service s key _
    | close key => exact serve_service s key _
    | _ => rfl

@[simp] theorem run_service (s : Server) (actions : List Action) :
    (s.run actions).service = s.service := by
  induction actions generalizing s with
  | nil => rfl
  | cons action rest ih => exact (ih _).trans (act_service s action)

/-- A connection that has been served is still there if its session has not ended. -/
theorem serve_connection {key other : String} {work : Session → Session} {c : Connection}
    (h : (s.serve other work).2.connections.lookup key = some c) :
    s.connections.lookup key = some c ∨
      key = other ∧ ∃ before, s.connections.lookup key = some before ∧
        (work (Session.start before s.registry)).ended = none ∧
        c = (work (Session.start before s.registry)).connection := by
  rw [serve] at h
  cases known : s.connections.lookup other with
  | none =>
    rw [known] at h
    exact Or.inl h
  | some before =>
    rw [known] at h
    simp only [settle] at h
    cases ended : (work (Session.start before s.registry)).ended with
    | none =>
      rw [ended] at h
      by_cases same : key = other
      · subst same
        exact Or.inr ⟨rfl, before, known, ended, Option.some.inj (h.symm.trans (lookup_put_self key _ _))⟩
      · exact Or.inl ((lookup_put_of_ne same _ _).symm.trans h)
    | some ending =>
      rw [ended] at h
      by_cases same : key = other
      · subst same
        exact absurd ((lookup_drop key _).symm.trans h) (Option.some_ne_none c).symm
      · exact Or.inl ((lookup_drop_of_ne same _).symm.trans h)

/-- Work that ends every session brings no connection about. -/
theorem serve_ending {key other : String} {work : Session → Session} {c : Connection}
    (ends : ∀ session, (work session).ended ≠ none)
    (h : (s.serve other work).2.connections.lookup key = some c) :
    s.connections.lookup key = some c := by
  rcases serve_connection h with same | ⟨-, before, -, going, -⟩
  · exact same
  · exact absurd going (ends _)

theorem endInput_connection {key other : String} {c : Connection}
    (h : (s.endInput other).2.connections.lookup key = some c) :
    s.connections.lookup key = some c := by
  refine serve_ending (fun session => ?_) h
  rw [Session.endInput]
  split <;> exact Option.some_ne_none _

/-- A connection under a key was there before, is new, or has got bytes. -/
theorem act_connection {key : String} {c : Connection} (action : Action)
    (h : (s.act action).connections.lookup key = some c) :
    s.connections.lookup key = some c ∨
      (∃ now trusted peer, action = .event now (.connect key trusted peer) ∧ c = .make trusted peer) ∨
      ∃ now bytes before, action = .event now (.receive key bytes) ∧
        s.connections.lookup key = some before ∧
        c = ((Session.start before s.registry).receive s.service now bytes).connection := by
  cases action with
  | update edit => exact Or.inl h
  | event now e =>
    cases e with
    | activate guard name =>
      refine Or.inl ?_
      simp only [act, apply, activate] at h
      split at h <;> exact h
    | release guard =>
      refine Or.inl ?_
      simp only [act, apply, release] at h
      split at h <;> exact h
    | connect other trusted peer =>
      by_cases same : key = other
      · subst same
        exact Or.inr (Or.inl ⟨now, trusted, peer, rfl, Option.some.inj (h.symm.trans (lookup_put_self key _ _))⟩)
      · exact Or.inl (endInput_connection ((lookup_put_of_ne same _ _).symm.trans h))
    | receive other bytes =>
      rcases serve_connection h with same | ⟨rfl, before, known, -, eq⟩
      · exact Or.inl same
      · exact Or.inr (Or.inr ⟨now, bytes, before, rfl, known, eq⟩)
    | endInput other => exact Or.inl (endInput_connection h)
    | close other => exact Or.inl (serve_ending (fun _ => Option.some_ne_none _) h)
    | _ => exact Or.inl h

end Server

end Roster

import Roster.Proofs.Admission.Run

/-!
# Who holds what

Every hold of the registry belongs to exactly one holder: a guard of an operator or a connection.
So a name stays active as long as any of its holders does, and no hold outlives its holder.
-/

namespace Roster

namespace Registry

theorem letGo_holds {held : Option String} {r : Registry} {others : List String}
    (h : r.holds.names.Perm (held.toList ++ others)) : (r.letGo held).holds.names.Perm others := by
  cases held with
  | none => exact h
  | some name =>
    have erased := h.erase name
    rwa [Option.toList_some, List.singleton_append, List.erase_cons_head] at erased

/-- A hold taken first and an old one given up then leave the new one in its place. -/
theorem exchange_holds {held : Option String} {r : Registry} {others : List String} (name : String)
    (h : r.holds.names.Perm (held.toList ++ others)) :
    (letGo held { r with holds := r.holds.acquire name }).holds.names.Perm (name :: others) :=
  letGo_holds ((h.cons name).trans List.perm_middle.symm)

theorem isActive_iff {r : Registry} {name : String} : r.isActive name = true ↔ name ∈ r.holds.names := by
  rw [isActive, Holds.contains, List.contains_iff_mem]

/-- The registry behind an update has the holds before it. -/
theorem update_holds (edit : Group → EditResult Group) (r : Registry) :
    (r.update edit).2.holds = r.holds := by
  rcases update_cases edit r with ⟨_, _, -, -, -, h⟩ | ⟨_, _, h⟩
  · rw [h]
  · rw [h]

theorem updateInactive_holds (name : String) (edit : Group → EditResult Group) (r : Registry) :
    (r.updateInactive name edit).2.holds = r.holds := by
  rw [updateInactive]
  cases r.requireInactive name with
  | ok => exact update_holds edit r
  | error e => rfl

theorem register_holds (n : Node) (r : Registry) : (r.register n).2.holds = r.holds := by
  rcases registration_cases n r with ⟨edit, eq, -⟩ | ⟨same, -⟩
  · rw [eq]
    exact update_holds edit.run r
  · rw [same]

end Registry

theorem Turn.accept_holds {n : Node} {held : Option String} {r : Registry} {others : List String}
    (h : r.holds.names.Perm (held.toList ++ others)) :
    (accept n held r).registry.holds.names.Perm ((accept n held r).held.toList ++ others) := by
  rw [← Registry.register_holds n r] at h
  cases accepting n held r with
  | refused registry kept _ =>
    rw [registry, kept]
    exact h
  | again admitted _ eq =>
    rw [eq, sendGroup_registry, sendGroup_held]
    rw [admitted] at h
    exact h
  | anew admitted eq =>
    rw [eq, sendGroup_registry, sendGroup_held]
    rw [admitted] at h
    exact Registry.exchange_holds n.name h

theorem Service.answer_holds {s : Service} {now line : String} {c : Connection} {r : Registry}
    {others : List String} (h : r.holds.names.Perm (c.held.toList ++ others)) :
    (s.answer now line c r).registry.holds.names.Perm
      ((s.answer now line c r).held.toList ++ others) := by
  cases answering s now line c r with
  | aside registry kept _ _ =>
    rw [registry, kept]
    exact h
  | join _ _ eq _ =>
    rw [eq]
    exact Turn.accept_holds h

namespace Session

/-- The registry's holds are the connection's own and those of others. -/
def Holds (s : Session) (others : List String) : Prop :=
  s.registry.holds.names.Perm (s.connection.held.toList ++ others)

variable {s : Session} {others : List String}

theorem Holds.take (h : s.Holds others) (service : Service) (now : String)
    (line : Except AdmissionError String) : (s.take service now line).Holds others := by
  rw [Session.take.eq_def]
  by_cases ended : s.ended.isSome = true
  · rw [if_pos ended]
    exact h
  · rw [if_neg ended]
    cases line with
    | error e => exact h
    | ok text => exact Service.answer_holds h

theorem Holds.takeAll (h : s.Holds others) (service : Service) (now : String)
    (lines : List (Except AdmissionError String)) : (s.takeAll service now lines).Holds others := by
  induction lines generalizing s with
  | nil => exact h
  | cons line rest ih => exact ih (h.take service now line)

theorem Holds.got (h : s.Holds others) (bytes : List UInt8) : (s.got bytes).Holds others := h

end Session

namespace Server

section Entries

variable {α : Type} {key : String} {entries : List (String × α)}

theorem drop_eq_self (h : entries.lookup key = none) : drop key entries = entries := by
  refine List.filter_eq_self.mpr fun e he => ?_
  rw [bne_comm]
  exact List.lookup_eq_none_iff.mp h e he

theorem lookup_drop (key : String) (entries : List (String × α)) :
    (drop key entries).lookup key = none := by
  refine List.lookup_eq_none_iff.mpr fun e he => ?_
  rw [bne_comm]
  exact (List.mem_filter.mp he).2

/-- The value of a key stands beside the entries of the other keys. -/
theorem perm_drop (key : String) (nodup : (entries.map Prod.fst).Nodup) :
    entries.Perm (((entries.lookup key).map (key, ·)).toList ++ drop key entries) := by
  induction entries with
  | nil => exact .nil
  | cons e rest ih =>
    obtain ⟨other, a⟩ := e
    obtain ⟨absent, nodup⟩ := List.nodup_cons.mp nodup
    by_cases same : key = other
    · -- keys are distinct, so nothing of the rest is dropped
      subst same
      have unknown : rest.lookup key = none := by
        refine List.lookup_eq_none_iff.mpr fun e he => bne_iff_ne.mpr fun h => ?_
        exact absent (List.mem_map.mpr ⟨e, he, h.symm⟩)
      have kept := drop_eq_self unknown
      rw [drop] at kept
      simp [drop, kept]
    · have kept : drop key ((other, a) :: rest) = (other, a) :: drop key rest := by
        simp [drop, Ne.symm same]
      have lookup : ((other, a) :: rest).lookup key = rest.lookup key := by
        rw [List.lookup_cons, beq_eq_false_iff_ne.mpr same]
      rw [kept, lookup]
      exact ((ih nodup).cons _).trans List.perm_middle.symm

theorem nodup_drop (nodup : (entries.map Prod.fst).Nodup) (key : String) :
    ((drop key entries).map Prod.fst).Nodup :=
  nodup.sublist (List.filter_sublist.map _)

theorem nodup_put (nodup : (entries.map Prod.fst).Nodup) (key : String) (a : α) :
    ((put key a entries).map Prod.fst).Nodup := by
  refine List.nodup_cons.mpr ⟨?_, nodup_drop nodup key⟩
  intro h
  obtain ⟨e, he, same⟩ := List.mem_map.mp h
  have other := (List.mem_filter.mp he).2
  simp [same] at other

end Entries

/-- The names that guards and connections hold, each for itself. -/
def holders (s : Server) : List String :=
  s.guards.map Prod.snd ++ s.connections.filterMap (·.2.held)

/-- Keys are told apart, and the holds are those of the guards and connections. -/
structure Accounted (s : Server) : Prop where
  guards : (s.guards.map Prod.fst).Nodup
  connections : (s.connections.map Prod.fst).Nodup
  holds : s.registry.holds.names.Perm s.holders

theorem accounted_make (service : Service) (group : Group) (store : MemoryStore) :
    (make service (.make group store)).Accounted :=
  ⟨List.nodup_nil, List.nodup_nil, .nil⟩

variable {s : Server}

theorem Accounted.publish (h : s.Accounted) {update : Registry → UpdateResult Group × Registry}
    (same : (update s.registry).2.holds = s.registry.holds) : (s.publish update).2.Accounted := by
  refine ⟨h.guards, h.connections, ?_⟩
  have holds := h.holds
  rw [← same] at holds
  exact holds

/-- The holds of all holders but one guard. -/
def besideGuard (s : Server) (guard : String) : List String :=
  (drop guard s.guards).map Prod.snd ++ s.connections.filterMap (·.2.held)

/-- The holds of all holders but one connection. -/
def besideConnection (s : Server) (key : String) : List String :=
  s.guards.map Prod.snd ++ (drop key s.connections).filterMap (·.2.held)

theorem Accounted.guard_holds (h : s.Accounted) (guard : String) :
    s.registry.holds.names.Perm ((s.guards.lookup guard).toList ++ s.besideGuard guard) := by
  have names := (perm_drop guard h.guards).map Prod.snd
  rw [besideGuard, ← List.append_assoc]
  refine h.holds.trans (List.Perm.append_right _ ?_)
  cases known : s.guards.lookup guard <;> simpa [known] using names

theorem filterMap_held_cons (key : String) (c : Connection) (rest : List (String × Connection)) :
    ((key, c) :: rest).filterMap (·.2.held) = c.held.toList ++ rest.filterMap (·.2.held) := by
  cases held : c.held <;> simp [held]

theorem Accounted.connection_holds (h : s.Accounted) {key : String} {c : Connection}
    (known : s.connections.lookup key = some c) :
    (Session.start c s.registry).Holds (s.besideConnection key) := by
  have names := (perm_drop key h.connections).filterMap (·.2.held)
  simp only [known, Option.map_some, Option.toList_some, List.singleton_append,
    filterMap_held_cons] at names
  refine h.holds.trans ((List.Perm.append_left _ names).trans ?_)
  rw [besideConnection]
  exact List.perm_append_comm_assoc _ _ _

theorem Accounted.settle (h : s.Accounted) {key : String} {session : Session}
    (holds : session.Holds (s.besideConnection key)) : (s.settle key session).2.Accounted := by
  rw [Server.settle]
  cases ended : session.ended with
  | none =>
    refine ⟨h.guards, nodup_put h.connections key _, ?_⟩
    have released : session.released = session.registry := by
      rw [Session.released, ended]
      rfl
    simp only [holders, released, put, filterMap_held_cons]
    exact holds.trans (List.perm_append_comm_assoc _ _ _)
  | some ending =>
    refine ⟨h.guards, nodup_drop h.connections key, ?_⟩
    have released : session.released = session.registry.letGo session.connection.held := by
      rw [Session.released, ended]
      rfl
    simp only [holders, released]
    exact Registry.letGo_holds holds

theorem Accounted.serve (h : s.Accounted) {key : String} {work : Session → Session}
    (keeps : ∀ {session : Session} {others : List String},
      session.Holds others → (work session).Holds others) :
    (s.serve key work).2.Accounted := by
  rw [Server.serve]
  cases known : s.connections.lookup key with
  | none => exact h
  | some c => exact h.settle (keeps (h.connection_holds known))

theorem Accounted.endInput (h : s.Accounted) (key : String) : (s.endInput key).2.Accounted := by
  refine h.serve fun {session} {others} holds => ?_
  rw [Session.endInput]
  split
  · exact holds
  · exact holds

/-- A connection whose peer is lost is forgotten, so its key is free. -/
theorem lookup_endInput (s : Server) (key : String) :
    (s.endInput key).2.connections.lookup key = none := by
  rw [Server.endInput, Server.serve]
  cases known : s.connections.lookup key with
  | none => exact known
  | some c =>
    have finished : ∃ ending, (Session.start c s.registry).endInput.ended = some ending := by
      rw [Session.endInput]
      split <;> exact ⟨_, rfl⟩
    obtain ⟨ending, finished⟩ := finished
    simp only [Server.settle, finished]
    exact lookup_drop key s.connections

theorem Accounted.connect (h : s.Accounted) (key : String) (trusted : Bool)
    (peer : Option SocketAddress) : (s.connect key trusted peer).2.Accounted := by
  have before := h.endInput key
  refine ⟨before.guards, nodup_put before.connections key _, ?_⟩
  have holds := before.holds
  rw [Server.connect]
  simp only [holders, put, filterMap_held_cons]
  rw [← Server.drop, drop_eq_self (lookup_endInput s key)]
  exact holds

theorem Accounted.activate (h : s.Accounted) (guard name : String) :
    (s.activate guard name).2.Accounted := by
  rw [Server.activate]
  cases active : s.registry.activate name with
  | error e => exact h
  | ok after =>
    obtain ⟨-, rfl⟩ := Registry.activate_eq_ok_iff.mp active
    exact ⟨nodup_put h.guards guard name, h.connections,
      Registry.exchange_holds name (h.guard_holds guard)⟩

theorem Accounted.release (h : s.Accounted) (guard : String) : (s.release guard).2.Accounted := by
  rw [Server.release]
  have holds := h.guard_holds guard
  cases known : s.guards.lookup guard with
  | none => exact h
  | some name =>
    rw [known] at holds
    exact ⟨nodup_drop h.guards guard, h.connections, Registry.letGo_holds holds⟩

theorem Accounted.apply (h : s.Accounted) (now : String) (event : Event) :
    (s.apply now event).2.Accounted := by
  cases event with
  | add node => exact h.publish (Registry.update_holds _ _)
  | remove name => exact h.publish (Registry.update_holds _ _)
  | delete name => exact h.publish (Registry.updateInactive_holds name _ _)
  | move name host port => exact h.publish (Registry.updateInactive_holds name _ _)
  | convert format => exact h.publish (Registry.update_holds _ _)
  | batch nodes names => exact h.publish (Registry.update_holds _ _)
  | activate guard name => exact h.activate guard name
  | release guard => exact h.release guard
  | connect key trusted peer => exact h.connect key trusted peer
  | receive key bytes =>
    refine h.serve fun {session} {others} holds => ?_
    rw [Session.receive_eq]
    exact (holds.got bytes).takeAll s.service now _
  | endInput key => exact h.endInput key
  | close key => exact h.serve fun holds => holds

theorem Accounted.run (h : s.Accounted) (actions : List Action) : (s.run actions).Accounted := by
  induction actions generalizing s with
  | nil => exact h
  | cons action rest ih =>
    refine ih ?_
    cases action with
    | event now event => exact h.apply now event
    | update edit => exact h.publish (Registry.update_holds edit.run _)

/-- What others hold is what they held when the bytes came. -/
theorem Accounted.midway_holds (h : s.Accounted) {now key : String}
    {taken rest : List (Except AdmissionError String)} {log : List Group} {session : Session}
    (midway : s.Midway now key taken rest log session) : session.Holds (s.besideConnection key) := by
  obtain ⟨c, bytes, known, -, -, rfl⟩ := midway
  exact ((h.connection_holds known).got bytes).takeAll s.service now taken

theorem Accounted.midway (h : s.Accounted) {now key : String}
    {taken rest : List (Except AdmissionError String)} {log : List Group} {session : Session}
    (midway : s.Midway now key taken rest log session) : ∃ others, session.Holds others :=
  ⟨_, h.midway_holds midway⟩

end Server

end Roster

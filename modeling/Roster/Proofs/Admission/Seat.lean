import Mathlib.Data.List.Chain
import Roster.Proofs.Admission.Ledger

/-!
# Active members keep their seats

While a member is active its record may be marked removed, but it stays where it is: with its id, its
type and its address. An edit that would delete or move it is refused, and whatever else is done to the
group leaves its record there. So it is enough to look at one step at a time, where a step is an event
or, of bytes with several requests in them, one request.
-/

namespace Roster

/-- What of a record is not to change while its member is active. -/
def Node.seat (n : Node) : UInt32 × NodeType × String × UInt16 := (n.id, n.kind, n.host, n.port)

namespace Group

variable {g g' : Group} {name other host : String} {port : UInt16} {format : FormatVersion} {n : Node}

/-- What has the name in the first group has it in the second too, in the same seat. -/
def Keeps (name : String) (g g' : Group) : Prop :=
  ∀ n, g.find? name = some n → ∃ n', g'.find? name = some n' ∧ n'.seat = n.seat

theorem keeps_self (name : String) (g : Group) : g.Keeps name g := fun n known => ⟨n, known, rfl⟩

theorem Keeps.trans {g'' : Group} (h : Keeps name g g') (h' : Keeps name g' g'') : Keeps name g g'' := by
  intro n known
  obtain ⟨n', known', seat⟩ := h n known
  obtain ⟨n'', known'', seat'⟩ := h' n' known'
  exact ⟨n'', known'', seat'.trans seat⟩

/-- Changing records one by one without their seats. -/
theorem keeps_map (g : Group) (format : FormatVersion) (change : UInt32) {f : Node → Node}
    (names : ∀ n, (f n).name = n.name) (seats : ∀ n, (f n).seat = n.seat) (name : String) :
    g.Keeps name { g with format := format, change := change, records := g.records.map f names } := by
  intro n known
  have mapped : (g.records.map f names).find? name = (g.find? name).map f := Records.find?_map names name
  rw [known] at mapped
  exact ⟨f n, mapped, seats n⟩

theorem keeps_add (h : g.add n = .ok g') (name : String) : g.Keeps name g' := by
  obtain ⟨free, -, -, -, rfl⟩ := add_eq_ok_iff.mp h
  intro m known
  have absent : g.records.find? (g.enrol n).name = none := by
    rw [enrol_name]
    exact free
  have other : name ≠ (g.enrol n).name := by
    intro same
    rw [← same] at absent
    cases absent.symm.trans known
  exact ⟨m, (Records.find?_insert_of_ne absent other).trans known, rfl⟩

theorem keeps_remove (h : g.remove other = .ok g') (name : String) : g.Keeps name g' := by
  obtain ⟨-, -, rfl⟩ := remove_eq_ok_iff.mp h
  apply keeps_map
  intro n
  split <;> rfl

theorem keeps_convert (h : g.convert format = .ok g') (name : String) : g.Keeps name g' := by
  obtain ⟨-, rfl⟩ := convert_eq_ok_iff.mp h
  apply keeps_map
  intro n
  simp [Node.seat]

theorem keeps_delete (h : g.delete other = .ok g') (apart : name ≠ other) : g.Keeps name g' := by
  obtain ⟨-, -, rfl⟩ := delete_eq_ok_iff.mp h
  intro n known
  exact ⟨n, (Records.find?_erase_of_ne apart).trans known, rfl⟩

theorem keeps_move (h : g.move other host port = .ok g') (apart : name ≠ other) : g.Keeps name g' := by
  obtain ⟨-, -, rfl⟩ := move_eq_ok_iff.mp h
  intro n known
  exact ⟨n, (Records.find?_move_of_ne apart host port _).trans known, rfl⟩

theorem keeps_foldlM {α : Type} {edit : Group → α → EditResult Group}
    (each : ∀ {g g' : Group} (a : α), edit g a = .ok g' → g.Keeps name g') {as : List α}
    {g g' : Group} (h : as.foldlM edit g = .ok g') : g.Keeps name g' := by
  refine related_of_foldlM (R := fun _ => Keeps name) (keeps_self name) ?_ h
  intro n g g' g'' a first later
  exact (each a first).trans later

theorem keeps_batch {nodes : List Node} {names : List String}
    (h : (GroupEdit.batch nodes names).run g = .ok g') (name : String) : g.Keeps name g' := by
  obtain ⟨middle, added, removed⟩ := bind_eq_ok_iff.mp h
  have first : g.Keeps name middle := keeps_foldlM (fun _ h => keeps_add h name) added
  have second : middle.Keeps name g' := keeps_foldlM (fun _ h => keeps_remove h name) removed
  exact first.trans second

end Group

namespace Registry

variable {r r' : Registry} {name other : String}

theorem keeps_update {edit : Group → EditResult Group}
    (each : ∀ g, edit r.current = .ok g → r.current.Keeps name g) :
    r.current.Keeps name (r.update edit).2.current := by
  rcases update_cases edit r with ⟨next, _, edited, -, -, eq⟩ | ⟨_, _, eq⟩
  · rw [eq]
    exact each next edited
  · rw [eq]
    exact r.current.keeps_self name

/-- An edit of an inactive member need only keep the others. -/
theorem keeps_updateInactive {edit : Group → EditResult Group} (held : r.isActive name = true)
    (each : name ≠ other → ∀ g, edit r.current = .ok g → r.current.Keeps name g) :
    r.current.Keeps name (r.updateInactive other edit).2.current := by
  rw [updateInactive, requireInactive]
  cases active : r.isActive other with
  | true => exact r.current.keeps_self name
  | false =>
    have apart : name ≠ other := by
      rintro rfl
      cases held.symm.trans active
    exact keeps_update (each apart)

theorem keeps_register (n : Node) (held : r.isActive name = true) :
    r.current.Keeps name (r.register n).2.current := by
  cases registering n r with
  | new _ eq =>
    rw [eq]
    exact keeps_update fun _ h => Group.keeps_add h name
  | refused _ _ eq =>
    rw [eq]
    exact r.current.keeps_self name
  | back _ _ _ _ eq =>
    rw [eq]
    exact r.current.keeps_self name
  | moved _ _ _ _ inactive eq =>
    have apart : name ≠ n.name := by
      rintro rfl
      cases held.symm.trans inactive
    rw [eq]
    exact keeps_update fun _ h => Group.keeps_move h apart

/-- One step leads from the first registry to the second: what was active keeps its seat, and what
becomes active has one. -/
structure Spares (r r' : Registry) : Prop where
  kept : ∀ name, r.isActive name = true → r.current.Keeps name r'.current
  seated : ∀ name, r'.isActive name = true → r.isActive name = true ∨ ∃ n, r'.current.find? name = some n

theorem spares_self (r : Registry) : r.Spares r :=
  ⟨fun name _ => r.current.keeps_self name, fun _ active => Or.inl active⟩

/-- A step that touches no hold. -/
theorem spares_of_holds (same : r'.holds = r.holds)
    (kept : ∀ name, r.isActive name = true → r.current.Keeps name r'.current) : r.Spares r' := by
  refine ⟨kept, fun name active => Or.inl ?_⟩
  rwa [isActive, same] at active

theorem isActive_of_letGo {held : Option String} (active : (r.letGo held).isActive name = true) :
    r.isActive name = true := by
  cases held with
  | none => exact active
  | some other =>
    rw [isActive_iff] at active ⊢
    exact List.mem_of_mem_erase active

/-- Holds that are given up in the end make no difference. -/
theorem Spares.letGo (h : r.Spares r') (held : Option String) : r.Spares (r'.letGo held) := by
  have same : (r'.letGo held).current = r'.current := letGo_current held r'
  refine ⟨fun name active => ?_, fun name active => ?_⟩
  · rw [same]
    exact h.kept name active
  · rw [same]
    exact h.seated name (isActive_of_letGo active)

/-- A step that touches no hold, and then a hold on a name in the group. -/
theorem Spares.acquire (h : r.Spares r') {n : Node} (known : r'.current.find? name = some n) :
    r.Spares { r' with holds := r'.holds.acquire name } := by
  refine ⟨h.kept, fun other active => ?_⟩
  rcases List.mem_cons.mp (isActive_iff.mp active) with rfl | held
  · exact Or.inr ⟨n, known⟩
  · exact h.seated other (isActive_iff.mpr held)

theorem spares_update (edit : Group → EditResult Group) (r : Registry)
    (each : ∀ g name, edit r.current = .ok g → r.current.Keeps name g) : r.Spares (r.update edit).2 :=
  spares_of_holds (update_holds edit r) fun name _ => keeps_update fun g h => each g name h

theorem spares_updateInactive (other : String) (edit : Group → EditResult Group) (r : Registry)
    (each : ∀ g name, name ≠ other → edit r.current = .ok g → r.current.Keeps name g) :
    r.Spares (r.updateInactive other edit).2 :=
  spares_of_holds (updateInactive_holds other edit r) fun name held =>
    keeps_updateInactive held fun apart g h => each g name apart h

theorem spares_register (n : Node) (r : Registry) : r.Spares (r.register n).2 :=
  spares_of_holds (register_holds n r) fun _ held => keeps_register n held

end Registry

theorem Turn.spares_accept (n : Node) (held : Option String) (r : Registry) :
    r.Spares (accept n held r).registry := by
  have registered := Registry.spares_register n r
  cases accepting n held r with
  | refused registry _ _ =>
    rw [registry]
    exact registered
  | again admitted _ eq =>
    rw [eq, sendGroup_registry]
    rwa [admitted] at registered
  | anew admitted eq =>
    obtain ⟨admits, current, -⟩ := Registry.register_admits admitted
    obtain ⟨m, known, -⟩ := admits.member
    rw [eq, sendGroup_registry]
    rw [admitted] at registered
    rw [← current] at known
    exact (registered.acquire known).letGo held

theorem Service.spares_answer (s : Service) (now line : String) (c : Connection) (r : Registry) :
    r.Spares (s.answer now line c r).registry := by
  cases answering s now line c r with
  | aside registry _ _ _ =>
    rw [registry]
    exact r.spares_self
  | join _ _ eq _ =>
    rw [eq]
    exact Turn.spares_accept _ c.held r

namespace Session

/-- If a connection ends, what it holds is given up. -/
theorem spares_released {r : Registry} {s : Session} (h : r.Spares s.registry) : r.Spares s.released := by
  rw [released]
  split
  · exact h.letGo _
  · exact h

theorem spares_take (service : Service) (now : String) (s : Session) (line : Except AdmissionError String) :
    s.released.Spares (s.take service now line).released := by
  by_cases ended : s.ended.isSome = true
  · rw [take_of_ended ended]
    exact s.released.spares_self
  rw [released_of_going (Option.not_isSome_iff_eq_none.mp ended)]
  cases line with
  | error e =>
    rw [take.eq_def, if_neg ended]
    exact spares_released s.registry.spares_self
  | ok text =>
    rw [take_of_going ended]
    exact spares_released (service.spares_answer now text s.connection s.registry)

theorem partway_succ {service : Service} {now : String} {s : Session} {bytes : List UInt8} {n : Nat}
    (more : n < (s.lines bytes).length) : s.partway service now bytes (n + 1) =
      (s.partway service now bytes n).take service now (s.lines bytes)[n] := by
  rw [partway, List.take_succ_eq_append_getElem more, takeAll, List.foldl_append]
  rfl

end Session

namespace Server

/-- The second server is at most one step behind the first, in which the seats were kept. -/
def Spares (s s' : Server) : Prop := s.registry.Spares s'.registry

/-- What there is to see of a server during an event and at its end: the lines of received bytes are
taken one by one. -/
def moments (s : Server) (now : String) : Event → List Server
  | .receive key bytes =>
    match s.connections.lookup key with
    | some c =>
      let session := Session.start c s.registry
      (List.range ((session.lines bytes).length + 1)).map fun n =>
        (s.settle key (session.partway s.service now bytes n)).2
    | none => [s]
  | event => [(s.apply now event).2]

/-- What there is to see of a server as events come to it. -/
def trail (s : Server) : List (String × Event) → List Server
  | [] => []
  | (now, event) :: rest => s.moments now event ++ (s.apply now event).2.trail rest

theorem getLast?_moments (s : Server) (now : String) (event : Event) :
    (s.moments now event).getLast? = some (s.apply now event).2 := by
  cases event with
  | receive key bytes =>
    cases known : s.connections.lookup key with
    | none => simp only [moments, apply, serve, known, List.getLast?_singleton]
    | some c =>
      have whole : ∀ session : Session, session.partway s.service now bytes (session.lines bytes).length =
          session.receive s.service now bytes := by
        intro session
        rw [Session.partway, List.take_length, Session.receive_eq]
      simp [moments, apply, serve, known, List.range_succ, whole]
  | _ => rfl

variable {s : Server}

theorem spares_serve {key : String} {work : Session → Session}
    (each : ∀ c, s.connections.lookup key = some c →
      s.registry.Spares (work (Session.start c s.registry)).registry) : s.Spares (s.serve key work).2 := by
  rw [serve]
  cases known : s.connections.lookup key with
  | none => exact s.registry.spares_self
  | some c => exact Session.spares_released (each c known)

theorem spares_endInput (s : Server) (key : String) : s.Spares (s.endInput key).2 := by
  refine spares_serve fun c _ => ?_
  obtain ⟨ending, finished⟩ := (Session.start c s.registry).endInput_eq
  rw [finished]
  exact s.registry.spares_self

theorem spares_activate (s : Server) (guard name : String) : s.Spares (s.activate guard name).2 := by
  rw [activate]
  cases active : s.registry.activate name with
  | error e => exact s.registry.spares_self
  | ok after =>
    obtain ⟨⟨n, known, -⟩, rfl⟩ := Registry.activate_eq_ok_iff.mp active
    exact (s.registry.spares_self.acquire known).letGo _

theorem spares_release (s : Server) (guard : String) : s.Spares (s.release guard).2 := by
  rw [release]
  cases s.guards.lookup guard with
  | none => exact s.registry.spares_self
  | some name => exact s.registry.spares_self.letGo (some name)

theorem isChain_moments (s : Server) (now : String) (event : Event) :
    (s :: s.moments now event).IsChain Spares := by
  have step : ∀ {s'}, s.Spares s' → [s, s'].IsChain Spares := List.isChain_pair.mpr
  cases event with
  | add node =>
    have spares := Registry.spares_update (·.add node) s.registry fun _ name h => Group.keeps_add h name
    exact step spares
  | remove other =>
    have spares := Registry.spares_update (·.remove other) s.registry fun _ name h => Group.keeps_remove h name
    exact step spares
  | delete other =>
    have spares := Registry.spares_updateInactive other (·.delete other) s.registry fun _ name apart h =>
      Group.keeps_delete h apart
    exact step spares
  | move other host port =>
    have spares := Registry.spares_updateInactive other (·.move other host port) s.registry
      fun _ name apart h => Group.keeps_move h apart
    exact step spares
  | convert format =>
    have spares := Registry.spares_update (GroupEdit.convert format).run s.registry fun _ name h =>
      Group.keeps_convert (mapError_eq_ok_iff.mp (refusing_eq_ok_iff.mp h)) name
    exact step spares
  | batch nodes names =>
    have spares := Registry.spares_update (GroupEdit.batch nodes names).run s.registry fun _ name h =>
      Group.keeps_batch h name
    exact step spares
  | activate guard name => exact step (s.spares_activate guard name)
  | release guard => exact step (s.spares_release guard)
  | connect key trusted peer => exact step (s.spares_endInput key)
  | receive key bytes =>
    cases known : s.connections.lookup key with
    | none =>
      simp only [moments, known]
      exact step s.registry.spares_self
    | some c =>
      simp only [moments, known]
      refine List.isChain_cons.mpr ⟨fun first mem => ?_, ?_⟩
      · rw [List.head?_map, List.head?_range] at mem
        cases mem
        exact s.registry.spares_self
      · rw [List.isChain_map, List.isChain_range]
        intro n more
        have taken := Session.spares_take s.service now
          ((Session.start c s.registry).partway s.service now bytes n)
          (((Session.start c s.registry).lines bytes)[n])
        rw [← Session.partway_succ more] at taken
        exact taken
  | endInput key => exact step (s.spares_endInput key)
  | close key => exact step (spares_serve fun c _ => s.registry.spares_self)

theorem isChain_trail (s : Server) (events : List (String × Event)) :
    (s :: s.trail events).IsChain Spares := by
  induction events generalizing s with
  | nil => exact List.isChain_singleton s
  | cons e rest ih =>
    obtain ⟨now, event⟩ := e
    obtain ⟨next, later⟩ := List.isChain_cons.mp (ih (s.apply now event).2)
    refine (s.isChain_moments now event).append later fun last mem => ?_
    rw [List.getLast?_cons, getLast?_moments] at mem
    cases mem
    exact next

/-- An edit for which a member must be inactive is refused while it is active, and nothing has happened. -/
theorem updateInactive_of_active {name : String} (held : s.registry.isActive name = true)
    (edit : Group → EditResult Group) : s.publish (·.updateInactive name edit) =
      (.published (.error (.refused (.edit (.active name)))), s) := by
  rw [publish, Registry.updateInactive, Registry.requireInactive, if_pos held]

/-- The name has a record. Deleting or moving it is refused, and a join under the name changes nothing. -/
structure Protects (s : Server) (name : String) : Prop where
  seated : ∃ n, s.registry.current.find? name = some n
  delete : ∀ now, s.apply now (.delete name) = (.published (.error (.refused (.edit (.active name)))), s)
  move : ∀ now host port, s.apply now (.move name host port) =
    (.published (.error (.refused (.edit (.active name)))), s)
  join : ∀ n, n.name = name → (s.registry.register n).2 = s.registry

theorem protects_of_active {name : String} (held : s.registry.isActive name = true)
    (seated : ∃ n, s.registry.current.find? name = some n) : s.Protects name := by
  constructor
  · exact seated
  · exact fun now => updateInactive_of_active held (·.delete name)
  · exact fun now host port => updateInactive_of_active held (·.move name host port)
  · rintro n rfl
    cases Registry.registering n s.registry with
    | new absent _ =>
      obtain ⟨m, known⟩ := seated
      cases absent.symm.trans known
    | refused _ _ eq => rw [eq]
    | back _ _ _ _ eq => rw [eq]
    | moved _ _ _ _ inactive _ => cases held.symm.trans inactive

/-- Every active name has a record. -/
def Seated (s : Server) : Prop :=
  ∀ name, s.registry.isActive name = true → ∃ n, s.registry.current.find? name = some n

theorem Seated.spares {s' : Server} (step : s.Spares s') (h : s.Seated) : s'.Seated := by
  intro name active
  rcases step.seated name active with before | listed
  · obtain ⟨n, known⟩ := h name before
    obtain ⟨n', known', -⟩ := step.kept name before n known
    exact ⟨n', known'⟩
  · exact listed

theorem same_seat_of_chain {stretch : List Server} (chain : stretch.IsChain Spares)
    (seated : ∀ s ∈ stretch, s.Seated) {name : String}
    (active : ∀ s ∈ stretch, s.registry.isActive name = true) :
    ∃ seat, ∀ s ∈ stretch, (s.registry.current.find? name).map Node.seat = some seat := by
  cases stretch with
  | nil => exact ⟨(0, .electable, "", 0), fun s mem => absurd mem List.not_mem_nil⟩
  | cons first rest =>
    obtain ⟨n, known⟩ := seated first List.mem_cons_self name (active first List.mem_cons_self)
    -- along the chain, what is active at one place keeps its seat at the next
    have kept : (first :: rest).IsChain fun s s' =>
        s.registry.current.Keeps name s'.registry.current :=
      chain.imp_of_mem_imp fun s s' mem _ step => step.kept name (active s mem)
    refine ⟨n.seat, kept.induction _ _ ?_ fun _ => by rw [List.head_cons, known, Option.map_some]⟩
    intro s s' keeps same
    obtain ⟨m, known, seat⟩ := Option.map_eq_some_iff.mp same
    obtain ⟨m', known', seat'⟩ := keeps m known
    rw [known', Option.map_some, seat', seat]

/-- Let any events come to a server that has just been made. Whenever a name is active there is a record
under it, and what would delete or move it is refused. As long as the name stays active, the record has
the same id, type, host and port. -/
theorem active_members_keep_their_seats (service : Service) (group : Group) (store : MemoryStore)
    (events : List (String × Event)) :
    let start := make service (.make group store)
    let trail := start :: start.trail events
    (∀ s ∈ trail, ∀ name, s.registry.isActive name = true → s.Protects name) ∧
    ∀ stretch name, stretch <:+: trail → (∀ s ∈ stretch, s.registry.isActive name = true) →
      ∃ seat, ∀ s ∈ stretch, (s.registry.current.find? name).map Node.seat = some seat := by
  intro start trail
  have chain : trail.IsChain Spares := start.isChain_trail events
  have fresh : start.Seated := by
    intro name active
    cases active
  have seated : ∀ s ∈ trail, s.Seated :=
    chain.induction _ _ (fun _ _ step h => h.spares step) fun _ => fresh
  constructor
  · intro s mem name active
    exact protects_of_active active (seated s mem name active)
  · intro stretch name part active
    have within : stretch.IsChain Spares := List.IsChain.infix chain part
    exact same_seat_of_chain within (fun s mem => seated s (part.subset mem)) active

/-- A member that is held is to be moved, is removed and is to be deleted, and still has its seat. -/
theorem held_sample_keeps_its_seat :
    let start := make ⟨false, ""⟩ (.make Group.sample .empty)
    let stretch := start.trail [("", .activate "g" "n1"), ("", .move "n1" "db2" 8), ("", .remove "n1"),
      ("", .delete "n1")]
    stretch.length = 4 ∧ stretch <:+: start :: stretch ∧
      (∀ s ∈ stretch, s.registry.isActive "n1" = true) ∧ (∀ s ∈ stretch, s.Protects "n1") ∧
      ∃ seat, ∀ s ∈ stretch, (s.registry.current.find? "n1").map Node.seat = some seat := by
  intro start stretch
  have part : stretch <:+: start :: stretch := (List.suffix_cons start stretch).isInfix
  have active : ∀ s ∈ stretch, s.registry.isActive "n1" = true := by decide +kernel
  obtain ⟨protect, same⟩ := active_members_keep_their_seats ⟨false, ""⟩ Group.sample .empty
    [("", .activate "g" "n1"), ("", .move "n1" "db2" 8), ("", .remove "n1"), ("", .delete "n1")]
  exact ⟨by decide +kernel, part, active, fun s mem => protect s (part.subset mem) "n1" (active s mem),
    same stretch "n1" part active⟩

end Server

end Roster

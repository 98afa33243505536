import Mathlib.Data.List.Chain
import Roster.Proofs.Admission.Run
import Roster.Proofs.Group.RoundTrip

/-!
# Change versions along a run

An edit counts the change version up by one, so a published group is ahead of the group it yields
by the edits that lie between them. Declaring a group at another format publishes it without an edit:
the change version stays, and what else may differ are the software versions that a format on the way
could not carry.
-/

namespace Roster

namespace Group

variable {g g' : Group} {name host : String} {port : UInt16} {format : FormatVersion} {n : Node}

/-- What every format carries of a group. -/
def core (g : Group) : Group := { g with format := .oldest, records := g.records.restrict .oldest }

/-- So many edits have made the second group of the first. -/
structure Yields (edits : Nat) (g g' : Group) : Prop where
  counted : g'.change.toNat = g.change.toNat + edits
  same : edits = 0 → g.core = g'.core

theorem yields_self (g : Group) : g.Yields 0 g := ⟨rfl, fun _ => rfl⟩

theorem yields_of_count (h : g'.change.toNat = g.change.toNat + 1) : g.Yields 1 g' :=
  ⟨h, fun none => absurd none Nat.one_ne_zero⟩

theorem Yields.trans {g'' : Group} {edits more : Nat} (h : g.Yields edits g')
    (h' : g'.Yields more g'') : g.Yields (edits + more) g'' := by
  constructor
  · have first := h.counted
    have second := h'.counted
    omega
  · intro none
    have first := h.same (by omega)
    have second := h'.same (by omega)
    exact first.trans second

theorem yields_add (h : g.add n = .ok g') : g.Yields 1 g' := by
  obtain ⟨-, -, hc, -, rfl⟩ := add_eq_ok_iff.mp h
  exact yields_of_count (Counter.toNat_succ hc)

theorem yields_remove (h : g.remove name = .ok g') : g.Yields 1 g' := by
  obtain ⟨-, hc, rfl⟩ := remove_eq_ok_iff.mp h
  exact yields_of_count (Counter.toNat_succ hc)

theorem yields_delete (h : g.delete name = .ok g') : g.Yields 1 g' := by
  obtain ⟨-, hc, rfl⟩ := delete_eq_ok_iff.mp h
  exact yields_of_count (Counter.toNat_succ hc)

theorem yields_move (h : g.move name host port = .ok g') : g.Yields 1 g' := by
  obtain ⟨-, hc, rfl⟩ := move_eq_ok_iff.mp h
  exact yields_of_count (Counter.toNat_succ hc)

theorem yields_convert (h : g.convert format = .ok g') : g.Yields 0 g' := by
  obtain ⟨-, rfl⟩ := convert_eq_ok_iff.mp h
  refine ⟨rfl, fun _ => ?_⟩
  have old : ¬ FormatVersion.oldest.carriesSoftware = true := by decide
  rw [core, core, g.records.restrict_restrict fun carries => absurd carries old]

/-- Edits made in turn count one by one. -/
theorem yields_foldlM {α : Type} {edit : Group → α → EditResult Group}
    (each : ∀ {g g' : Group} (a : α), edit g a = .ok g' → g.Yields 1 g') {as : List α}
    {g g' : Group} (h : as.foldlM edit g = .ok g') : g.Yields as.length g' := by
  refine related_of_foldlM (R := Yields) yields_self ?_ h
  intro n g g' g'' a first later
  have whole := (each a first).trans later
  rwa [Nat.add_comm] at whole

theorem yields_batch {nodes : List Node} {names : List String}
    (h : (GroupEdit.batch nodes names).run g = .ok g') : g.Yields (nodes.length + names.length) g' := by
  obtain ⟨middle, added, removed⟩ := bind_eq_ok_iff.mp h
  have first : g.Yields nodes.length middle := yields_foldlM (fun _ => yields_add) added
  have second : middle.Yields names.length g' := yields_foldlM (fun _ => yields_remove) removed
  exact first.trans second

end Group

/-- How many edits lie between a group that an event publishes and the one it yields. -/
def Event.edits : Event → Nat
  | .convert _ => 0
  | .batch nodes names => nodes.length + names.length
  | _ => 1

namespace Registry

variable {R : Group → Group → Prop} {r middle r' : Registry} {log log' : List Group}

/-- A passage picks up where the one before has left off. -/
theorem Follows.chain (h : r.Follows log middle) (first : (r.current :: log).IsChain R)
    (second : (middle.current :: log').IsChain R) : (r.current :: (log ++ log')).IsChain R := by
  by_cases none : log = []
  · obtain ⟨same, -⟩ := h.quiet none
    rw [none, List.nil_append, ← same]
    exact second
  · obtain ⟨front, last, rfl⟩ := (List.eq_nil_or_concat' log).resolve_left none
    obtain ⟨same, -⟩ := h.stored last List.getLast?_concat
    rw [same] at second
    have parts : (r.current :: (front ++ [last] ++ log')) = (r.current :: front) ++ last :: log' := by simp
    rw [parts]
    exact List.isChain_split.mpr ⟨first, second⟩

/-- Nothing has been published. -/
theorem chain_of_quiet {g : Group} (quiet : log = []) : (g :: log).IsChain R := by
  rw [quiet]
  exact List.isChain_singleton g

theorem chain_update (edit : Group → EditResult Group) (r : Registry)
    (each : ∀ g, edit r.current = .ok g → R r.current g) :
    (r.current :: published (r.update edit).1).IsChain R := by
  rcases update_cases edit r with ⟨next, _, edited, -, -, eq⟩ | ⟨_, _, eq⟩
  · rw [eq]
    exact List.isChain_pair.mpr (each next edited)
  · rw [eq]
    exact List.isChain_singleton _

theorem chain_updateInactive (name : String) (edit : Group → EditResult Group) (r : Registry)
    (each : ∀ g, edit r.current = .ok g → R r.current g) :
    (r.current :: published (r.updateInactive name edit).1).IsChain R := by
  rw [updateInactive]
  cases r.requireInactive name with
  | ok => exact chain_update edit r each
  | error e => exact List.isChain_singleton _

/-- Registering publishes a group after one edit, if it publishes one. -/
theorem chain_registration (n : Node) (r : Registry) :
    (r.current :: r.registration n).IsChain (Group.Yields 1) := by
  rw [registration]
  cases registering n r with
  | new absent eq =>
    rw [absent, eq]
    exact chain_update _ r fun _ => Group.yields_add
  | refused known _ eq =>
    rw [known, eq]
    simp only [published, ite_self]
    exact List.isChain_singleton _
  | back known _ _ address eq =>
    rw [known]
    simp only [if_pos address]
    exact List.isChain_singleton _
  | moved known _ _ elsewhere _ eq =>
    rw [known, eq]
    simp only [if_neg elsewhere]
    exact chain_update _ r fun _ => Group.yields_move

end Registry

theorem Service.chain_publishes (s : Service) (line : String) (c : Connection) (r : Registry) :
    (r.current :: s.publishes line c r).IsChain (Group.Yields 1) := by
  cases s.answering "" line c r with
  | aside _ _ _ quiet => exact Registry.chain_of_quiet quiet
  | join _ _ _ publishes =>
    rw [publishes]
    exact r.chain_registration _

/-- Of the lines that come at once, every one may publish a group of its own. -/
theorem Session.chain_published (service : Service) (now : String) (s : Session)
    (lines : List (Except AdmissionError String)) :
    (s.registry.current :: s.published service now lines).IsChain (Group.Yields 1) := by
  induction lines generalizing s with
  | nil => exact List.isChain_singleton _
  | cons line rest ih =>
    refine (s.take_follows service now line).chain ?_ (ih _)
    cases line with
    | error e => exact List.isChain_singleton _
    | ok text =>
      by_cases ended : s.ended.isSome = true
      · rw [publishes, if_pos ended]
        exact List.isChain_singleton _
      · rw [publishes, if_neg ended]
        exact service.chain_publishes text s.connection s.registry

namespace Group

/-- The second group is ahead of the first, or is the same but for what the oldest format leaves out. -/
def Ages (g g' : Group) : Prop := g.change < g'.change ∨ g.change = g'.change ∧ g.core = g'.core

instance : Trans Ages Ages Ages where
  trans {g g' g''} h h' := by
    rcases h with less | ⟨same, core⟩
    · rcases h' with less' | ⟨same', -⟩
      · exact Or.inl (UInt32.lt_trans less less')
      · exact Or.inl (same' ▸ less)
    · rcases h' with less' | ⟨same', core'⟩
      · exact Or.inl (same ▸ less')
      · exact Or.inr ⟨same.trans same', core.trans core'⟩

end Group

/-- Events as actions, each at its time. -/
def Action.ofEvents (events : List (String × Event)) : List Action :=
  events.map fun e => .event e.1 e.2

namespace Server

variable {s : Server}

/-- A group that an event publishes is ahead of the one it yields by the edits of the event. -/
theorem chain_publishes (s : Server) (now : String) (event : Event) :
    (s.registry.current :: s.publishes (.event now event)).IsChain
      (Group.Yields event.edits) := by
  cases event with
  | add node => exact Registry.chain_update (·.add node) s.registry fun _ => Group.yields_add
  | remove name => exact Registry.chain_update (·.remove name) s.registry fun _ => Group.yields_remove
  | delete name =>
    exact Registry.chain_updateInactive name (·.delete name) s.registry fun _ => Group.yields_delete
  | move name host port =>
    exact Registry.chain_updateInactive name (·.move name host port) s.registry fun _ => Group.yields_move
  | convert format =>
    refine Registry.chain_update (GroupEdit.convert format).run s.registry fun g edited => ?_
    exact Group.yields_convert (mapError_eq_ok_iff.mp (refusing_eq_ok_iff.mp edited))
  | batch nodes names =>
    exact Registry.chain_update (GroupEdit.batch nodes names).run s.registry fun _ => Group.yields_batch
  | activate guard name =>
    refine Registry.chain_of_quiet ?_
    simp only [publishes, apply, activate]
    cases s.registry.activate name <;> rfl
  | release guard =>
    refine Registry.chain_of_quiet ?_
    simp only [publishes, apply, release]
    cases s.guards.lookup guard <;> rfl
  | connect key trusted peer => exact List.isChain_singleton _
  | receive key bytes =>
    cases known : s.connections.lookup key with
    | none =>
      simp only [publishes, known]
      exact List.isChain_singleton _
    | some c =>
      simp only [publishes, known]
      exact Session.chain_published s.service now ((Session.start c s.registry).got bytes) _
  | endInput key => exact Registry.chain_of_quiet (told_serve key _)
  | close key => exact Registry.chain_of_quiet (told_serve key _)

/-- What holds between a published group and the next within every event holds along the run. -/
theorem chain_published {R : Group → Group → Prop} {events : List (String × Event)}
    (each : ∀ e ∈ events, ∀ g g', g.Yields e.2.edits g' → R g g') (s : Server) :
    (s.registry.current :: s.published (Action.ofEvents events)).IsChain R := by
  induction events generalizing s with
  | nil => exact List.isChain_singleton _
  | cons e rest ih =>
    obtain ⟨here, later⟩ := List.forall_mem_cons.mp each
    have first := (chain_publishes s e.1 e.2).imp here
    have whole := (act_follows (.event e.1 e.2)).chain first (ih later _)
    exact whole

/-- Let any events come to a server, and take its group at the start with the groups that are then
published in turn. A published group has counted up once for each edit that the event makes of the group it
replaces: one where a node is added, removed, deleted, moved or joins, none where the group is only
declared at another format. So every group has a higher change version than those before it as long as
none is only declared. In any case, of two groups the later has the higher change version, or they share
it and are the same but for what the oldest format leaves out. -/
theorem change_version_orders_groups (s : Server) (events : List (String × Event)) :
    let log := s.registry.current :: s.published (Action.ofEvents events)
    (∀ done e rest, events = done ++ e :: rest →
      let before := s.run (Action.ofEvents done)
      (before.registry.current :: before.publishes (.event e.1 e.2)).IsChain
        (Group.Yields e.2.edits)) ∧
    ((∀ e ∈ events, 0 < e.2.edits) → log.Pairwise fun g g' => g.change < g'.change) ∧
    log.Pairwise Group.Ages := by
  intro log
  refine ⟨fun done e rest _ => chain_publishes _ e.1 e.2, fun counts => ?_, ?_⟩
  · have chain : log.IsChain (fun g g' => g.change < g'.change) := by
      refine chain_published (fun e mem g g' yields => ?_) s
      have more := counts e mem
      have counted := yields.counted
      rw [UInt32.lt_iff_toNat_lt]
      omega
    exact chain.pairwise
  · have chain : log.IsChain Group.Ages := by
      refine chain_published (fun e _ g g' yields => ?_) s
      have counted := yields.counted
      by_cases none : e.2.edits = 0
      · refine Or.inr ⟨?_, yields.same none⟩
        rw [← UInt32.toNat_inj]
        omega
      · refine Or.inl ?_
        rw [UInt32.lt_iff_toNat_lt]
        omega
    exact chain.pairwise

/-- A node is added, and a member is moved and then removed. -/
theorem edited_sample_counts_up :
    let s := make ⟨false, ""⟩ (.make Group.sample .empty)
    let events := [("", Event.add (.joining "n2" .electable "h" 9 none)), ("", .move "n1" "db2" 8),
      ("", .remove "n1")]
    (∀ e ∈ events, 0 < e.2.edits) ∧ (s.published (Action.ofEvents events)).length = 3 ∧
      (s.registry.current :: s.published (Action.ofEvents events)).Pairwise
        fun g g' => g.change < g'.change := by
  intro s events
  have counts : ∀ e ∈ events, 0 < e.2.edits := by decide
  obtain ⟨-, grows, -⟩ := change_version_orders_groups s events
  exact ⟨counts, by decide +kernel, grows counts⟩

/-- A group that is declared at one format and then at another is published twice, both times with the
change version that it had. -/
theorem declared_groups_share_change_version :
    let s := make ⟨false, ""⟩ (.make Group.sample .empty)
    let log := s.published (Action.ofEvents [("", .convert .v1), ("", .convert .v3)])
    Group.sample.Reachable ∧ log.map Group.format = [.v1, .v3] ∧
      log.map Group.change = [Group.sample.change, Group.sample.change] :=
  ⟨.read Group.read_sample, by decide +kernel, by decide +kernel⟩

end Server

end Roster

import Roster.Proofs.Admission.History
import Roster.Proofs.Group.Removal
import Roster.Proofs.Startup.Member

/-!
# Removed members stay removed

A group is edited, declared at other formats, written and read again, published by servers and taken up by
starts. All of this comes down to edits, and none but a deletion is made of a removed member. So its record
outlasts everything else, and nobody is admitted under its name.
-/

namespace Roster

namespace Group

variable {g g' g'' : Group} {name : String}

/-- Edits among which the name is not deleted make the second group of the first. -/
def Becomes (name : String) (g g' : Group) : Prop := ∃ edits, .delete name ∉ edits ∧ g.replay edits = .ok g'

theorem becomes_self (name : String) (g : Group) : g.Becomes name g := ⟨[], List.not_mem_nil, g.replay_nil⟩

theorem Becomes.trans (h : Becomes name g g') (h' : Becomes name g' g'') : Becomes name g g'' := by
  obtain ⟨edits, kept, first⟩ := h
  obtain ⟨more, kept', later⟩ := h'
  refine ⟨edits ++ more, ?_, replay_append_eq_ok_iff.mpr ⟨g', first, later⟩⟩
  rw [List.mem_append]
  exact not_or.mpr ⟨kept, kept'⟩

theorem becomes_of_edit {e : Edit} (h : g.edit e = .ok g') (kept : e ≠ .delete name) : g.Becomes name g' := by
  refine ⟨[e], ?_, (g.replay_singleton e).trans h⟩
  rw [List.mem_singleton]
  exact kept.symm

theorem becomes_of_convert {format : FormatVersion} (h : g.convert format = .ok g') (name : String) :
    g.Becomes name g' :=
  becomes_of_edit (edit_convert_eq_ok_iff.mpr h) Edit.noConfusion

theorem Becomes.reachable (h : Becomes name g g') (reachable : g.Reachable) : g'.Reachable := by
  obtain ⟨edits, -, replayed⟩ := h
  exact reachable.replay replayed

theorem becomes_of_reload {written target : FormatVersion} (wf : g.WellFormed) (h : g.reload written target = .ok g')
    (name : String) : g.Becomes name g' := by
  obtain ⟨middle, _, first, -, second⟩ := reload_eq_ok wf h
  have upto := becomes_of_convert first name
  rcases second with rfl | second
  · exact upto
  · exact upto.trans (becomes_of_convert second name)

end Group

namespace Startup

variable {s : Settings} {r r' : Registry}

theorem Declares.becomes (h : Declares s r r') (name : String) : r.current.Becomes name r'.current := by
  cases h with
  | already => exact Group.becomes_self name _
  | anew _ updated => exact Group.becomes_of_convert updated.converted name

theorem Enlists.becomes (h : Enlists s r r') (name : String) : r.current.Becomes name r'.current := by
  cases h with
  | known => exact Group.becomes_self name _
  | added _ updated => exact Group.becomes_of_edit (e := .add s.localNode) updated.edited Edit.noConfusion

/-- A start that is given a group converts it and adds the node, if anything. -/
theorem becomes_of_run {W : Type} {ask : String → W → Except AdmissionError Group × W} {fresh : Uuid}
    {store : MemoryStore} {world : W} {g : Group} (given : Given ask s store world g)
    (started : (run ask s fresh store world).result = .ok r) (name : String) : g.Becomes name r.current := by
  obtain ⟨g', before, source, adopted⟩ := run_eq_ok started
  obtain ⟨only, -⟩ := source.given
  obtain rfl := only g given
  obtain ⟨-, middle, declares, enlists⟩ := adopt_eq_ok_iff.mp adopted
  exact (declares.becomes name).trans (enlists.becomes name)

end Startup

/-- The groups that come of a group as long as a name is not deleted. -/
inductive Group.Sequel (name : String) (g : Group) : Group → Prop
  | same : Sequel name g g
  | edited {g' g'' : Group} (before : Sequel name g g') (e : Edit) (kept : e ≠ .delete name)
      (edited : g'.edit e = .ok g'') : Sequel name g g''
  | reloaded {g' g'' : Group} (before : Sequel name g g') (written target : FormatVersion)
      (reload : g'.reload written target = .ok g'') : Sequel name g g''
  | served {s : Server} (before : Sequel name g s.registry.current) (tasks : List Task)
      (kept : .delete name ∉ s.history tasks) : Sequel name g (s.perform tasks).registry.current
  | restarted {g' : Group} (before : Sequel name g g') {W : Type}
      {ask : String → W → Except AdmissionError Group × W} {s : Settings} {fresh : Uuid} {store : MemoryStore}
      {world : W} {r : Registry} (given : Startup.Given ask s store world g')
      (started : (Startup.run ask s fresh store world).result = .ok r) : Sequel name g r.current

theorem Group.Sequel.becomes {name : String} {g g' : Group} (h : g.Sequel name g') (reachable : g.Reachable) :
    g.Becomes name g' := by
  induction h with
  | same => exact becomes_self name g
  | edited _ e kept edited ih => exact ih.trans (becomes_of_edit edited kept)
  | reloaded _ written target reload ih =>
    have wf := (ih.reachable reachable).wellFormed
    exact ih.trans (becomes_of_reload wf reload name)
  | @served s _ tasks kept ih => exact ih.trans ⟨s.history tasks, kept, s.replay_history tasks⟩
  | restarted _ given started ih => exact ih.trans (Startup.becomes_of_run given started name)

namespace Registry

variable {r : Registry} {n m : Node}

theorem update_of_unedited {edit : Group → EditResult Group} {cause : Fault EditError}
    (h : edit r.current = .error cause) : r.update edit = (.error (cause.map .edit), r) := by
  rw [update, h]
  rfl

theorem register_of_removed (known : r.current.find? n.name = some m) (removed : m.removed = true) :
    r.register n = (.error (.refused (.edit (.notMember n.name r.current.name))), r) := by
  rw [register, known]
  exact if_pos removed

end Registry

namespace Server

/-- What is asked for under a name fails and changes nothing, unless it is to delete it. As long as that is
not done, nobody is admitted under the name. -/
structure Shuts (s : Server) (name : String) : Prop where
  add : ∀ now n, n.name = name → ∃ fault, s.apply now (.add n) = (.published (.error fault), s)
  remove : ∀ now, ∃ fault, s.apply now (.remove name) = (.published (.error fault), s)
  move : ∀ now host port, ∃ fault, s.apply now (.move name host port) = (.published (.error fault), s)
  update : ∀ edits, .delete name ∉ edits → (∃ e ∈ edits, e.name? = some name) →
    ∃ fault, s.publish (·.update (GroupEdit.replay edits).run) = (.published (.error fault), s)
  activate : ∀ now guard, ∃ e, s.apply now (.activate guard name) = (.held (.error e), s)
  join : ∀ tasks, .delete name ∉ s.history tasks → ∀ key, ∀ turn ∈ s.turns key tasks, admitted? turn ≠ some name

variable {s : Server} {name : String} {n : Node}

theorem publish_of_failed {update : Registry → UpdateResult Group × Registry} {fault : Fault UpdateError}
    (h : update s.registry = (.error fault, s.registry)) : s.publish update = (.published (.error fault), s) := by
  rw [publish, h]

/-- No edit of a removed member is published. -/
theorem publish_of_removed (known : s.registry.current.find? name = some n) (removed : n.removed = true) {e : Edit}
    (about : e.name? = some name) (kept : e ≠ .delete name) :
    ∃ fault, s.publish (·.update (·.edit e)) = (.published (.error fault), s) := by
  cases edited : s.registry.current.edit e with
  | ok g => exact absurd about (Group.name_ne_of_removed edited known removed kept)
  | error cause => exact ⟨cause.map .edit, publish_of_failed (Registry.update_of_unedited edited)⟩

theorem not_admitted_of_removed (known : s.registry.current.find? name = some n) (removed : n.removed = true)
    {tasks : List Task} (kept : .delete name ∉ s.history tasks) {key : String} {turn : String × Reply}
    (mem : turn ∈ s.turns key tasks) : admitted? turn ≠ some name := by
  intro admitted
  obtain ⟨format, stream, _, _, m, told, parsed, rfl⟩ := admitted_eq_some admitted
  obtain ⟨before, after, now, c, r, answered, whole, met⟩ := place_in_history mem
  -- the record is still there when the line is answered
  have untouched : .delete m.name ∉ before := by
    intro deleted
    refine kept ?_
    rw [whole, List.append_assoc]
    exact List.mem_append_left _ deleted
  obtain ⟨-, n', known', fades, -⟩ := Group.removed_replay met untouched known removed
  rw [told] at answered
  obtain ⟨_, _, m', g, r', -, parsed', -, registered, -⟩ := Service.answer_group answered
  cases parsed.symm.trans parsed'
  cases (Registry.register_of_removed known' (fades.removed.trans removed)).symm.trans registered

theorem shuts_of_removed (known : s.registry.current.find? name = some n) (removed : n.removed = true) :
    s.Shuts name := by
  constructor
  case add =>
    rintro now m rfl
    exact publish_of_removed known removed (e := .add m) rfl Edit.noConfusion
  case remove =>
    intro now
    exact publish_of_removed known removed (e := .remove name) rfl Edit.noConfusion
  case move =>
    intro now host port
    cases inactive : s.registry.requireInactive name with
    | ok =>
      have asked : s.apply now (.move name host port) = s.publish (·.update (·.move name host port)) := by
        simp only [apply, publish, Registry.move, Registry.updateInactive, inactive]
      rw [asked]
      exact publish_of_removed known removed (e := .move name host port) rfl Edit.noConfusion
    | error e =>
      have failed : s.registry.move name host port = (.error (.refused (.edit e)), s.registry) := by
        rw [Registry.move, Registry.updateInactive, inactive]
      exact ⟨.refused (.edit e), publish_of_failed failed⟩
  case update =>
    intro edits kept about
    obtain ⟨cause, failed⟩ := Group.replay_fails kept about known removed
    exact ⟨cause.map .edit, publish_of_failed (Registry.update_of_unedited failed)⟩
  case activate =>
    intro now guard
    refine ⟨.edit (.notMember name s.registry.current.name), ?_⟩
    simp only [apply, Server.activate, Registry.activate, known, if_pos removed]
  case join => exact fun tasks kept key turn mem => not_admitted_of_removed known removed kept mem

end Server

namespace Group

/-- Let a member have been removed from a group that can come about, and let anything come of the group but
the deletion of the name. The record is still there, as it was except that the group may have been declared
at a format which leaves out its software version. The edits that can be made next are none of the record,
and without another declaration they leave it as it is. Every server of the group fails to add, remove, move
or activate under the name, on its own or along with other edits, and does not admit anybody under it. -/
theorem removal_lasts_until_deletion {g g' : Group} {n : Node} (reachable : g.Reachable)
    (known : g.find? n.name = some n) (removed : n.removed = true) (sequel : g.Sequel n.name g') :
    ∃ n', g'.find? n.name = some n' ∧ (n' = n ∨ n' = { n with software := none }) ∧
      (∀ edits g'', g'.replay edits = .ok g'' → .delete n.name ∉ edits →
        (∀ e ∈ edits, e.name? ≠ some n.name) ∧
        ((∀ e ∈ edits, e.isOfRecord = true) → g''.find? n.name = some n')) ∧
      ∀ s : Server, s.registry.current = g' → s.Shuts n.name := by
  obtain ⟨edits, kept, replayed⟩ := sequel.becomes reachable
  obtain ⟨-, n', known', fades, -⟩ := removed_replay replayed kept known removed
  have removed' : n'.removed = true := fades.removed.trans removed
  refine ⟨n', known', fades, ?_, ?_⟩
  · intro more g'' replayed' kept'
    obtain ⟨others, n'', known'', -, same⟩ := removed_replay replayed' kept' known' removed'
    refine ⟨others, fun records => ?_⟩
    rw [known'', same records]
  · rintro s rfl
    exact Server.shuts_of_removed known' removed'

/-- The record of the sample's only member after it has been removed. -/
def goneNode : Node := ⟨"n1", 1, .monitor, "db", 7, some "é", true, 2⟩

def gone : Group := { sample with change := 2, records := Records.empty.insert goneNode }

/-- A join under the removed name and the addition of another node. -/
def visits : List Task :=
  [.event "" (.connect "k" true none),
    .event "" (.receive "k" (Line.bytes "JOIN 5 2 00026e310000000001000264620007000000000000")),
    .event "" (.add (.joining "n2" .electable "h" 9 none))]

/-- The group after these visits, at the oldest format. -/
def resumed : Group :=
  ⟨"orders", .zero, .v1, 3, 2,
    (Records.empty.insert { goneNode with software := none }).insert
      ⟨"n2", 2, .electable, "h", 9, none, false, 3⟩⟩

/-- The node tries to join after it has been removed, and restarts with settings for the oldest format. -/
theorem removed_sample_stays_removed :
    let server := Server.make ⟨false, ""⟩ (.make gone .empty)
    let store := (server.perform visits).registry.store
    gone.Reachable ∧ gone.find? "n1" = some goneNode ∧ (server.turns "k" visits).length = 1 ∧
    (Startup.run (Startup.askHelpers "" Startup.sample) Startup.sample .zero store []).result =
      .ok (.make resumed (store.save resumed).2) ∧
    gone.Sequel "n1" resumed ∧ resumed.find? "n1" = some { goneNode with software := none } ∧
    (Server.make ⟨false, ""⟩ (.make resumed .empty)).Shuts "n1" := by
  intro server store
  have reachable : gone.Reachable := .step (.read read_sample) (.remove "n1" (by decide +kernel))
  have known : gone.find? "n1" = some goneNode := by decide +kernel
  have kept : .delete "n1" ∉ server.history visits := by decide +kernel
  have served : gone.Sequel "n1" (server.perform visits).registry.current :=
    .served (s := server) .same visits kept
  have loads : store.load = .ok (some (server.perform visits).registry.current) := by
    have durable := (Server.run_follows server (visits.map Task.action)).durable reachable
    obtain ⟨-, -, -, -, loads⟩ := durable.stored (by decide +kernel)
    exact loads
  have started : (Startup.run (Startup.askHelpers "" Startup.sample) Startup.sample .zero store []).result =
      .ok (.make resumed (store.save resumed).2) := by
    rw [Startup.run, loads]
    decide +kernel
  have sequel : gone.Sequel "n1" resumed := served.restarted (.inl loads) started
  obtain ⟨-, -, -, -, shuts⟩ := removal_lasts_until_deletion reachable (n := goneNode) known rfl sequel
  exact ⟨reachable, known, by decide +kernel, started, sequel, by decide +kernel, shuts _ rfl⟩

end Group

end Roster

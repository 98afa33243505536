import Roster.Proofs.Group.Reachable
import Roster.Registry.Basic

/-!
# Updates of the published group

An update either publishes what its edit makes of the group, which the store then holds too, or
leaves both as they were. A registry follows another with the groups published on the way; what
operators and joining nodes do to a registry is put together from such passages.
-/

namespace Roster

/-- An edit leads from groups that can come about to such groups only. -/
structure GroupEdit where
  run : Group → EditResult Group
  reachable : ∀ {g g' : Group}, g.Reachable → run g = .ok g' → g'.Reachable

namespace GroupEdit

def add (n : Node) : GroupEdit := ⟨(·.add n), fun hg h => .step hg (.add n h)⟩

def remove (name : String) : GroupEdit := ⟨(·.remove name), fun hg h => .step hg (.remove name h)⟩

def delete (name : String) : GroupEdit := ⟨(·.delete name), fun hg h => .step hg (.delete name h)⟩

def move (name host : String) (port : UInt16) : GroupEdit :=
  ⟨(·.move name host port), fun hg h => .step hg (.move name host port h)⟩

def convert (format : FormatVersion) : GroupEdit where
  run g := refusing ((g.convert format).mapError .unwritable)
  reachable hg h :=
    .step hg (.convert format (mapError_eq_ok_iff.mp (refusing_eq_ok_iff.mp h)))

theorem foldlM_reachable {α : Type} {edit : Group → α → EditResult Group}
    (each : ∀ {g g' : Group} (a : α), g.Reachable → edit g a = .ok g' → g'.Reachable)
    {as : List α} {g g' : Group} (hg : g.Reachable) (h : as.foldlM edit g = .ok g') :
    g'.Reachable := by
  refine related_of_foldlM (R := fun _ g g' => g.Reachable → g'.Reachable) (fun _ hg => hg) ?_ h hg
  intro n g g' g'' a first later hg
  exact later (each a hg first)

def batch (nodes : List Node) (names : List String) : GroupEdit where
  run g := do (← g.addAll nodes).removeAll names
  reachable hg h := by
    obtain ⟨middle, hmiddle, h⟩ := bind_eq_ok_iff.mp h
    have hmiddle := foldlM_reachable (fun n => (add n).reachable) hg hmiddle
    exact foldlM_reachable (fun name => (remove name).reachable) hmiddle h

end GroupEdit

namespace Registry

/-- The groups that a result tells to be published. -/
def published : UpdateResult Group → List Group
  | .ok g => [g]
  | .error _ => []

/-- One registry comes from another on which groups have been published in turn. -/
structure Follows (r : Registry) (log : List Group) (r' : Registry) : Prop where
  reachable : r.current.Reachable → r'.current.Reachable
  logged : r.current.Reachable → ∀ g ∈ log, g.Reachable
  quiet : log = [] → r'.current = r.current ∧ r'.store.stream = r.store.stream
  stored : ∀ g, log.getLast? = some g → r'.current = g ∧
    ∃ stream, g.stream = .ok stream ∧ r'.store.stream = some stream

theorem Follows.of_same {r r' : Registry} (current : r'.current = r.current)
    (stream : r'.store.stream = r.store.stream) : r.Follows [] r' :=
  ⟨fun h => current ▸ h, fun _ => List.forall_mem_nil _, fun _ => ⟨current, stream⟩, fun _ h => by cases h⟩

theorem Follows.refl (r : Registry) : r.Follows [] r := .of_same rfl rfl

theorem Follows.trans {r middle r' : Registry} {log log' : List Group} (h : r.Follows log middle)
    (h' : middle.Follows log' r') : r.Follows (log ++ log') r' := by
  refine ⟨fun hr => h'.reachable (h.reachable hr), ?_, ?_, ?_⟩
  · exact fun hr => List.forall_mem_append.mpr ⟨h.logged hr, h'.logged (h.reachable hr)⟩
  · intro none
    obtain ⟨none, none'⟩ := List.append_eq_nil_iff.mp none
    obtain ⟨hcurrent, hstream⟩ := h'.quiet none'
    obtain ⟨hcurrent', hstream'⟩ := h.quiet none
    exact ⟨hcurrent.trans hcurrent', hstream.trans hstream'⟩
  · intro g hg
    by_cases none : log' = []
    · -- nothing more was published, so what the first part stored is still there
      obtain ⟨hcurrent, hstream⟩ := h'.quiet none
      rw [none, List.append_nil] at hg
      rw [hcurrent, hstream]
      exact h.stored g hg
    · rw [List.getLast?_append, List.getLast?_eq_some_getLast none, Option.some_or] at hg
      exact h'.stored g (by rw [List.getLast?_eq_some_getLast none, hg])

/-- Holds are not part of what is published. -/
theorem Follows.then_same {r middle r' : Registry} {log : List Group} (h : r.Follows log middle)
    (current : r'.current = middle.current) (stream : r'.store.stream = middle.store.stream) :
    r.Follows log r' := by
  simpa using h.trans (.of_same current stream)

theorem recheck_eq_ok_iff {g g' : Group} :
    recheck g = .ok g' ↔ g.Carries g.format ∧ g' = g := by
  rw [recheck, ← Group.checkFormat_eq_ok_iff]
  cases hg : g.checkFormat g.format with
  | ok => simp [eq_comm]
  | error e => simp

/-- A save that succeeds stores the group's stream, and one that fails stores nothing. -/
theorem save_cases (g : Group) (store : MemoryStore) :
    (∃ stream, g.stream = .ok stream ∧ store.faults.headD false = false ∧
      store.save g = (.ok (), ⟨some stream, store.faults.drop 1⟩)) ∨
    ∃ e, store.save g = (.error e, ⟨store.stream, store.faults.drop 1⟩) := by
  rw [MemoryStore.save]
  by_cases fails : store.faults.headD false = true
  · rw [if_pos fails]
    exact Or.inr ⟨_, rfl⟩
  · rw [if_neg fails]
    cases hg : g.stream with
    | ok stream => exact Or.inl ⟨stream, rfl, Bool.eq_false_iff.mpr fails, rfl⟩
    | error e => exact Or.inr ⟨_, rfl⟩

/-- A group that can be written is saved unless the save fails. -/
theorem save_eq_ok_iff {g : Group} {store saved : MemoryStore} {stream : String} (written : g.stream = .ok stream) :
    store.save g = (.ok (), saved) ↔
      store.faults.headD false = false ∧ saved = ⟨some stream, store.faults.drop 1⟩ := by
  rw [MemoryStore.save]
  by_cases fails : store.faults.headD false = true
  · rw [if_pos fails, fails]
    simp
  · rw [if_neg fails, written, Bool.eq_false_iff.mpr fails]
    simp [eq_comm (b := saved)]

theorem exists_stream_of_saved {g : Group} {store : MemoryStore} (saved : (store.save g).1 = .ok ()) :
    ∃ stream, g.stream = .ok stream := by
  rcases save_cases g store with ⟨stream, written, -⟩ | ⟨e, eq⟩
  · exact ⟨stream, written⟩
  · rw [eq] at saved
    cases saved

/-- An update that succeeds has stored what it publishes, and one that fails has done nothing but
use up a save. -/
theorem update_cases (edit : Group → EditResult Group) (r : Registry) :
    (∃ next stream, edit r.current = .ok next ∧ next.stream = .ok stream ∧
      r.store.faults.headD false = false ∧
      r.update edit = (.ok next, ⟨next, r.holds, ⟨some stream, r.store.faults.drop 1⟩⟩)) ∨
    ∃ fault faults, r.update edit = (.error fault, ⟨r.current, r.holds, ⟨r.store.stream, faults⟩⟩) := by
  rw [update]
  cases hedit : edit r.current >>= recheck with
  | error fault => exact Or.inr ⟨_, r.store.faults, rfl⟩
  | ok next =>
    obtain ⟨g, hg, hnext⟩ := bind_eq_ok_iff.mp hedit
    obtain ⟨-, rfl⟩ := recheck_eq_ok_iff.mp hnext
    rcases save_cases next r.store with ⟨stream, hstream, works, hsave⟩ | ⟨e, hsave⟩
    · refine Or.inl ⟨next, stream, hg, hstream, works, ?_⟩
      simp only [hsave]
    · refine Or.inr ⟨.refused (.store e), r.store.faults.drop 1, ?_⟩
      simp only [hsave]

theorem update_follows (edit : GroupEdit) (r : Registry) :
    r.Follows (published (r.update edit.run).1) (r.update edit.run).2 := by
  rcases update_cases edit.run r with ⟨next, stream, hedit, hstream, -, h⟩ | ⟨fault, faults, h⟩
  · rw [h]
    refine ⟨fun hr => edit.reachable hr hedit, fun hr => ?_, fun nothing => absurd nothing (List.cons_ne_nil _ _), ?_⟩
    · exact List.forall_mem_singleton.mpr (edit.reachable hr hedit)
    intro g hg
    cases hg
    exact ⟨rfl, stream, hstream, rfl⟩
  · rw [h]
    exact .of_same rfl rfl

/-- An update with the edit leads from one registry to the other: what the edit makes of the group has
been saved and published, and nobody's hold is touched. -/
structure Updated (r : Registry) (edit : GroupEdit) (r' : Registry) : Prop where
  edited : edit.run r.current = .ok r'.current
  saved : r.store.save r'.current = (.ok (), r'.store)
  holds : r'.holds = r.holds

theorem update_eq_ok_iff {edit : GroupEdit} {r r' : Registry} {g : Group} :
    r.update edit.run = (.ok g, r') ↔ r'.current = g ∧ r.Updated edit r' := by
  constructor
  · intro h
    rcases update_cases edit.run r with ⟨next, stream, edited, written, works, eq⟩ | ⟨fault, faults, eq⟩
    · cases h.symm.trans eq
      exact ⟨rfl, edited, (save_eq_ok_iff written).mpr ⟨works, rfl⟩, rfl⟩
    · cases h.symm.trans eq
  · rintro ⟨rfl, edited, saved, holds⟩
    -- what has been saved could be written, so the check between edit and save passes
    obtain ⟨stream, written⟩ := exists_stream_of_saved (congrArg Prod.fst saved)
    have carries := (Group.exists_streamAt_iff.mp ⟨stream, written⟩).carries
    have checked : (edit.run r.current >>= recheck) = .ok r'.current :=
      bind_eq_ok_iff.mpr ⟨_, edited, recheck_eq_ok_iff.mpr ⟨carries, rfl⟩⟩
    rw [update, checked]
    simp only [saved, ← holds]

theorem Updated.follows {edit : GroupEdit} {r r' : Registry} (h : r.Updated edit r') :
    ∃ log, r.Follows log r' := by
  have follows := update_follows edit r
  rw [update_eq_ok_iff.mpr ⟨rfl, h⟩] at follows
  exact ⟨_, follows⟩

theorem Updated.converted {format : FormatVersion} {r r' : Registry} (h : r.Updated (.convert format) r') :
    r.current.convert format = .ok r'.current :=
  mapError_eq_ok_iff.mp (refusing_eq_ok_iff.mp h.edited)

theorem updateInactive_follows (name : String) (edit : GroupEdit) (r : Registry) :
    r.Follows (published (r.updateInactive name edit.run).1) (r.updateInactive name edit.run).2 := by
  rw [updateInactive]
  cases r.requireInactive name with
  | ok => exact update_follows edit r
  | error e => exact .refl r

/-- The registry, with saves to come that fail as told. -/
def facing (faults : List Bool) (r : Registry) : Registry := { r with store := { r.store with faults := faults } }

@[simp] theorem letGo_current (held : Option String) (r : Registry) :
    (r.letGo held).current = r.current := by
  cases held <;> rfl

@[simp] theorem letGo_store (held : Option String) (r : Registry) :
    (r.letGo held).store = r.store := by
  cases held <;> rfl

/-- A hold is taken on a current member, and nothing else is touched. -/
theorem activate_eq_ok_iff {name : String} {r active : Registry} :
    r.activate name = .ok active ↔ r.current.HasMember name ∧
      active = { r with holds := r.holds.acquire name } := by
  rw [activate, Group.HasMember]
  cases r.current.find? name with
  | none => simp
  | some n =>
    by_cases removed : n.removed = true
    · simp [removed]
    · simp [removed, eq_comm (b := active)]

end Registry

end Roster

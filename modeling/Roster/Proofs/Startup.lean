import Roster.Proofs.Admission.Durability
import Roster.Proofs.Admission.Heard
import Roster.Settings.Load
import Roster.Startup

/-!
# Which group a node starts with

A start takes its group from the store, from a helper or from nowhere, declares it at the configured
format and adds the node. The group keeps its name in this. A stored group is compared with the
configured name and a new one is given it, but the group of a helper is taken as it is.
-/

namespace Roster

theorem MemoryStore.load_eq_some {store : MemoryStore} {g : Group} (h : store.load = .ok (some g)) :
    ∃ stream, store.stream = some stream ∧ Group.ofStream stream = .ok g := by
  rw [load] at h
  split at h
  · cases h
  · obtain ⟨g', read, same⟩ := map_eq_ok_iff.mp h
    obtain rfl := Option.some.inj same
    exact ⟨_, ‹_›, mapError_eq_ok_iff.mp read⟩

theorem MemoryStore.load_saved {store saved : MemoryStore} {g : Group} (wf : g.WellFormed)
    (h : store.save g = (.ok (), saved)) : saved.load = .ok (some g) := by
  rcases Registry.save_cases g store with ⟨stream, written, -, eq⟩ | ⟨e, eq⟩
  · cases eq.symm.trans h
    exact load_stream wf written rfl
  · cases eq.symm.trans h

/-- What an update publishes is what the store would load. -/
theorem Registry.Updated.loads {r r' : Registry} {edit : GroupEdit} (h : r.Updated edit r')
    (reachable : r.current.Reachable) : r'.store.load = .ok (some r'.current) :=
  MemoryStore.load_saved (edit.reachable reachable h.edited).wellFormed h.saved

theorem Registry.Follows.keeps_stored {r r' : Registry} {log : List Group} (h : r.Follows log r')
    (reachable : r.current.Reachable) (stored : r.store.load = .ok (some r.current)) :
    r'.store.load = .ok (some r'.current) := by
  obtain ⟨untouched, published⟩ := h.durable reachable
  by_cases none : log = []
  · obtain ⟨current, stream⟩ := untouched none
    have same : r'.store.load = r.store.load := by rw [MemoryStore.load, MemoryStore.load, stream]
    rw [same, current, stored]
  · obtain ⟨-, -, -, -, loads⟩ := published none
    exact loads

namespace Startup

variable {s : Settings} {g : Group} {r r' : Registry} {store after : MemoryStore}

/-- How a group comes to be declared at the configured format. -/
inductive Declares (s : Settings) (r : Registry) : Registry → Prop
  | already (same : r.current.format = s.membership.format) : Declares s r r
  | anew {r' : Registry} (other : r.current.format ≠ s.membership.format)
      (updated : r.Updated (.convert s.membership.format) r') : Declares s r r'

/-- How a group comes to have a record under the node's name. -/
inductive Enlists (s : Settings) (r : Registry) : Registry → Prop
  | known {n : Node} (known : r.current.find? s.node.name = some n) : Enlists s r r
  | added {r' : Registry} (absent : r.current.find? s.node.name = none)
      (updated : r.Updated (.add s.localNode) r') : Enlists s r r'

theorem convert_eq_ok_iff : convert s r = (.ok r', after) ↔ after = r'.store ∧ Declares s r r' := by
  rw [convert]
  by_cases same : r.current.format = s.membership.format
  · rw [if_pos same]
    constructor
    · intro h
      cases h
      exact ⟨rfl, .already same⟩
    · rintro ⟨rfl, already | ⟨other, -⟩⟩
      · rfl
      · exact absurd same other
  · rw [if_neg same]
    have def_eq : r.convert s.membership.format = r.update (GroupEdit.convert s.membership.format).run := rfl
    rw [def_eq]
    constructor
    · intro h
      split at h
      · rename_i updated
        cases h
        exact ⟨rfl, .anew same (Registry.update_eq_ok_iff.mp updated).2⟩
      · cases h
    · rintro ⟨rfl, already | ⟨-, updated⟩⟩
      · exact absurd already same
      · rw [Registry.update_eq_ok_iff.mpr ⟨rfl, updated⟩]

theorem addSelf_eq_ok_iff : addSelf s r = (.ok r', after) ↔ after = r'.store ∧ Enlists s r r' := by
  rw [addSelf]
  cases listed : r.current.find? s.node.name with
  | some n =>
    constructor
    · intro h
      cases h
      exact ⟨rfl, .known listed⟩
    · rintro ⟨rfl, known | ⟨absent, -⟩⟩
      · rfl
      · cases listed.symm.trans absent
  | none =>
    have def_eq : r.add s.localNode = r.update (GroupEdit.add s.localNode).run := rfl
    simp only [def_eq]
    constructor
    · intro h
      split at h
      · rename_i updated
        cases h
        exact ⟨rfl, .added listed (Registry.update_eq_ok_iff.mp updated).2⟩
      · cases h
    · rintro ⟨rfl, known | ⟨-, updated⟩⟩
      · cases listed.symm.trans known
      · rw [Registry.update_eq_ok_iff.mpr ⟨rfl, updated⟩]

theorem Declares.follows (h : Declares s r r') : ∃ log, r.Follows log r' := by
  cases h with
  | already => exact ⟨[], .refl r⟩
  | anew _ updated => exact updated.follows

theorem Enlists.follows (h : Enlists s r r') : ∃ log, r.Follows log r' := by
  cases h with
  | known => exact ⟨[], .refl r⟩
  | added _ updated => exact updated.follows

/-- The published group has the name and the identity that it had, and is held by the same peers. -/
structure Keeps (r r' : Registry) : Prop where
  name : r'.current.name = r.current.name
  uuid : r'.current.uuid = r.current.uuid
  holds : r'.holds = r.holds

theorem Keeps.trans {middle : Registry} (h : Keeps r middle) (h' : Keeps middle r') : Keeps r r' :=
  ⟨h'.name.trans h.name, h'.uuid.trans h.uuid, h'.holds.trans h.holds⟩

theorem Declares.keeps (h : Declares s r r') : Keeps r r' := by
  cases h with
  | already => exact ⟨rfl, rfl, rfl⟩
  | anew _ updated =>
    obtain ⟨-, eq⟩ := Group.convert_eq_ok_iff.mp updated.converted
    exact ⟨by rw [eq], by rw [eq], updated.holds⟩

theorem Enlists.keeps (h : Enlists s r r') : Keeps r r' := by
  cases h with
  | known => exact ⟨rfl, rfl, rfl⟩
  | added _ updated =>
    obtain ⟨-, -, -, -, eq⟩ := Group.add_eq_ok_iff.mp updated.edited
    exact ⟨by rw [eq], by rw [eq], updated.holds⟩

/-- A group that is adopted is first declared at the configured format, and then the node is enlisted. -/
theorem adopt_eq_ok_iff : adopt s g store = (.ok r, after) ↔
    after = r.store ∧ ∃ middle, Declares s (.make g store) middle ∧ Enlists s middle r := by
  rw [adopt]
  constructor
  · intro h
    split at h
    · rename_i middle stored converted
      obtain ⟨-, declares⟩ := convert_eq_ok_iff.mp converted
      obtain ⟨rfl, enlists⟩ := addSelf_eq_ok_iff.mp h
      exact ⟨rfl, middle, declares, enlists⟩
    · cases h
  · rintro ⟨rfl, middle, declares, enlists⟩
    rw [convert_eq_ok_iff.mpr ⟨rfl, declares⟩]
    exact addSelf_eq_ok_iff.mpr ⟨rfl, enlists⟩

/-- A group that is adopted keeps its name. -/
theorem adopt_eq_ok (h : adopt s g store = (.ok r, after)) :
    after = r.store ∧ (∃ log, (Registry.make g store).Follows log r) ∧ r.current.name = g.name := by
  obtain ⟨rfl, middle, declares, enlists⟩ := adopt_eq_ok_iff.mp h
  obtain ⟨log, first⟩ := declares.follows
  obtain ⟨log', second⟩ := enlists.follows
  exact ⟨rfl, ⟨_, first.trans second⟩, (declares.keeps.trans enlists.keeps).name⟩

section Run

variable {W : Type} {ask : String → W → Except AdmissionError Group × W} {fresh : Uuid} {world : W}

/-- What a search finds was given by a helper as the helpers before have left the world. -/
theorem search_found_in {P : Group → Prop} {Fit : W → Prop}
    (given : ∀ address w, Fit w → Fit (ask address w).2 ∧ ∀ g, (ask address w).1 = .ok g → P g)
    {addresses : List String} {w : W} (fit : Fit w) (found : (search ask addresses w).1 = .found g) : P g := by
  induction addresses generalizing w with
  | nil => cases found
  | cons address rest ih =>
    obtain ⟨later, here⟩ := given address w fit
    rw [search] at found
    rcases asked : ask address w with ⟨e | g', after⟩
    · rw [asked] at found later
      simp only at found
      split at found
      · cases found
      · exact ih later found
    · rw [asked] at found
      cases found
      exact here g (congrArg Prod.fst asked)

theorem search_found {P : Group → Prop} (given : ∀ address w g, (ask address w).1 = .ok g → P g)
    {addresses : List String} {w : W} (found : (search ask addresses w).1 = .found g) : P g := by
  have each : ∀ address w, True → True ∧ ∀ g, (ask address w).1 = .ok g → P g :=
    fun address w _ => ⟨trivial, given address w⟩
  exact search_found_in each trivial found

/-- Where a start takes its group from, and the store as it is then. -/
inductive Source (ask : String → W → Except AdmissionError Group × W) (s : Settings) (fresh : Uuid)
    (store : MemoryStore) (world : W) : Group → MemoryStore → Prop
  | stored {g : Group} (loads : store.load = .ok (some g)) (own : g.name = s.node.group) :
      Source ask s fresh store world g store
  | fetched {g : Group} {saved : MemoryStore} (nothing : store.load = .ok none)
      (found : (search ask s.node.helpers world).1 = .found g) (saves : store.save g = (.ok (), saved)) :
      Source ask s fresh store world g saved
  | created (nothing : store.load = .ok none) (nobody : (search ask s.node.helpers world).1 = .nobody)
      (alone : s.node.helpers = []) :
      Source ask s fresh store world (.empty s.node.group fresh s.membership.format) store

theorem resume_eq_ok (h : resume s g store = (.ok r, after)) :
    g.name = s.node.group ∧ adopt s g store = (.ok r, after) := by
  rw [resume] at h
  split at h
  · exact ⟨‹_›, h⟩
  · cases h

theorem commence_eq_ok {found : Search} (h : commence s fresh found store = (.ok r, after)) :
    (∃ g saved, found = .found g ∧ store.save g = (.ok (), saved) ∧ adopt s g saved = (.ok r, after)) ∨
      found = .nobody ∧ s.node.helpers = [] ∧
        adopt s (.empty s.node.group fresh s.membership.format) store = (.ok r, after) := by
  cases found with
  | found g =>
    rw [commence] at h
    split at h
    · exact Or.inl ⟨g, _, rfl, ‹_›, h⟩
    · cases h
  | refused address e => cases h
  | nobody =>
    rw [commence] at h
    split at h
    · exact Or.inr ⟨rfl, List.isEmpty_iff.mp ‹_›, h⟩
    · cases h

theorem run_of_search {found : Search} {dialed : List String} {last : W} (nothing : store.load = .ok none)
    (searched : search ask s.node.helpers world = (found, dialed, last)) : run ask s fresh store world =
      ⟨(commence s fresh found store).1, (commence s fresh found store).2, dialed, last⟩ := by
  rw [run, nothing]
  simp only [searched]

theorem run_of_nothing (nothing : store.load = .ok none) :
    (run ask s fresh store world).result =
      (commence s fresh (search ask s.node.helpers world).1 store).1 := by
  rw [run_of_search nothing rfl]

theorem dialed_of_nothing (nothing : store.load = .ok none) :
    (run ask s fresh store world).dialed = (search ask s.node.helpers world).2.1 := by
  rw [run_of_search nothing rfl]

theorem run_eq_ok (h : (run ask s fresh store world).result = .ok r) :
    ∃ g before, Source ask s fresh store world g before ∧
      adopt s g before = (.ok r, (run ask s fresh store world).store) := by
  rw [run] at h ⊢
  cases loads : store.load with
  | error e =>
    rw [loads] at h
    cases h
  | ok stored =>
    rw [loads] at h
    cases stored with
    | some g =>
      obtain ⟨own, adopted⟩ := resume_eq_ok (Prod.ext h rfl : resume s g store = (.ok r, _))
      exact ⟨g, store, .stored loads own, adopted⟩
    | none =>
      rcases commence_eq_ok (Prod.ext h rfl : commence s fresh _ store = (.ok r, _)) with
        ⟨g, saved, found, saves, adopted⟩ | ⟨nobody, alone, adopted⟩
      · exact ⟨g, saved, .fetched loads found saves, adopted⟩
      · exact ⟨_, store, .created loads nobody alone, adopted⟩

end Run

end Startup

namespace Startup

variable {s : Settings} {fresh : Uuid} {store : MemoryStore} {now : String} {helpers : Helpers} {r : Registry}

/-- Asks helpers for the settings' own node. -/
abbrev askHelpers (now : String) (s : Settings) : String → Helpers → Except AdmissionError Group × Helpers :=
  Helpers.ask now s.membership.stream s.localNode

theorem Source.reachable {g : Group} {before : MemoryStore}
    (source : Source (askHelpers now s) s fresh store helpers g before) : g.Reachable := by
  cases source with
  | stored loads own =>
    obtain ⟨stream, -, read⟩ := MemoryStore.load_eq_some loads
    exact .read read
  | fetched nothing found saves =>
    refine search_found (fun address w g asked => ?_) found
    obtain ⟨reply, gives⟩ := Helpers.ask_eq_ok asked
    exact gives.sound.1
  | created nothing nobody alone => exact .empty _ _ _

/-- Let a start succeed. Its group has the configured name exactly if it was not fetched from a helper
that handed out a group of another name. In that case the helper's group is what the node goes on
with and what it stores, and the next start with the same settings refuses it. -/
theorem configured_name_iff
    (started : (run (askHelpers now s) s fresh store helpers).result = .ok r) :
    (r.current.name = s.node.group ↔ ∀ g, store.load = .ok none →
      (search (askHelpers now s) s.node.helpers helpers).1 = .found g → g.name = s.node.group) ∧
    (r.current.name ≠ s.node.group → ∀ now' fresh' helpers',
      (run (askHelpers now' s) s fresh'
          (run (askHelpers now s) s fresh store helpers).store helpers').result =
        .error (.refused (.foreignGroup r.current.name s.node.group))) := by
  obtain ⟨g, before, source, adopted⟩ := run_eq_ok started
  obtain ⟨kept, ⟨log, follows⟩, name⟩ := adopt_eq_ok adopted
  rw [name]
  constructor
  · constructor
    · intro own g' nothing found
      cases source with
      | stored loads _ => cases loads.symm.trans nothing
      | fetched _ found' _ =>
        cases found'.symm.trans found
        exact own
      | created _ nobody _ => cases nobody.symm.trans found
    · intro named
      cases source with
      | stored _ own => exact own
      | fetched nothing found _ => exact named g nothing found
      | created _ _ _ => rfl
  · intro foreign now' fresh' helpers'
    have reachable := source.reachable
    have loads : r.store.load = .ok (some r.current) := by
      refine follows.keeps_stored reachable ?_
      cases source with
      | stored _ own => exact absurd own foreign
      | fetched _ _ saves => exact MemoryStore.load_saved reachable.wellFormed saves
      | created _ _ _ => exact absurd rfl foreign
    rw [kept, run, loads]
    simp only [resume, name, if_neg foreign]

/-- Settings of a node of the group orders that has one helper. -/
def sample : Settings where
  node := ⟨"n1", "orders", .electable, ⟨.v4 127 0 0 1, 0, 7001⟩, none, ["h:1"], NodeSettings.defaultDataDir⟩
  membership := ⟨.v1, 7, false⟩
  channel := .default

/-- The helper serves an empty group of another name. -/
def stranger : Helpers :=
  [("h:1", .live (.make ⟨false, ""⟩ (.make (.empty "inventory" .zero .v1) .empty)) true)]

/-- What the helper hands out when it has admitted the node. -/
def inventory : Group :=
  ⟨"inventory", .zero, .v1, 1, 1,
    Records.empty.insert ⟨"n1", 1, .electable, "127.0.0.1", 7001, none, false, 1⟩⟩

theorem search_stranger :
    (search (askHelpers "" sample) sample.node.helpers stranger).1 = .found inventory := by decide +kernel

/-- The group of the helper is stored and is what the node goes on with. -/
theorem run_stranger :
    (run (askHelpers "" sample) sample .zero .empty stranger).result =
      .ok (.make inventory (MemoryStore.empty.save inventory).2) := by
  rw [run_of_nothing rfl, search_stranger]
  decide +kernel

theorem foreign_start_is_not_repeated :
    (run (askHelpers "" sample) sample .zero .empty stranger).result =
      .ok (.make inventory (MemoryStore.empty.save inventory).2) ∧
    (run (askHelpers "" sample) sample .zero
        (run (askHelpers "" sample) sample .zero .empty stranger).store stranger).result =
      .error (.refused (.foreignGroup "inventory" "orders")) :=
  ⟨run_stranger, (configured_name_iff run_stranger).2 (by decide) "" .zero stranger⟩

/-- With valid settings, a node of the group orders starts with the group that its helper serves. -/
theorem started_with_foreign_name : sample.validate = .ok () ∧
    ((run (askHelpers "" sample) sample .zero .empty stranger).result.map
      fun r => r.current.name) = .ok "inventory" ∧ sample.node.group = "orders" :=
  ⟨by decide +kernel, by rw [run_stranger]; rfl, rfl⟩

end Startup

end Roster

import Roster.Proofs.Startup.Search

/-!
# What a restart goes on with

A start that succeeds leaves its group in the store. The group is at the configured format and has a
record under the node's name, so a restart has nothing to declare, nothing to add and nobody to ask.
-/

namespace Roster

namespace Startup

variable {s : Settings} {g : Group} {r r' : Registry} {store before : MemoryStore}

theorem Declares.reachable (h : Declares s r r') (reachable : r.current.Reachable) : r'.current.Reachable := by
  obtain ⟨log, follows⟩ := h.follows
  exact follows.reachable reachable

theorem Declares.format (h : Declares s r r') : r'.current.format = s.membership.format := by
  cases h with
  | already same => exact same
  | anew _ updated =>
    obtain ⟨-, eq⟩ := Group.convert_eq_ok_iff.mp updated.converted
    rw [eq]

theorem Enlists.format (h : Enlists s r r') : r'.current.format = r.current.format := by
  cases h with
  | known => rfl
  | added _ updated =>
    obtain ⟨-, -, -, -, eq⟩ := Group.add_eq_ok_iff.mp updated.edited
    rw [eq]

/-- The current group is what the store would load, or else the node has yet to be enlisted. -/
def Backed (s : Settings) (r : Registry) : Prop :=
  r.store.load = .ok (some r.current) ∨ r.current.find? s.node.name = none

theorem Declares.backed (h : Declares s r r') (reachable : r.current.Reachable) (backed : Backed s r) :
    Backed s r' := by
  cases h with
  | already => exact backed
  | anew _ updated => exact Or.inl (updated.loads reachable)

theorem Enlists.loads (h : Enlists s r r') (reachable : r.current.Reachable) (backed : Backed s r) :
    r'.store.load = .ok (some r'.current) := by
  cases h with
  | @known n listed =>
    rcases backed with loads | absent
    · exact loads
    · cases listed.symm.trans absent
  | added _ updated => exact updated.loads reachable

/-- Only a new group has not been stored, and it has no records. -/
theorem Source.backed {now : String} {helpers : Helpers} {fresh : Uuid}
    (source : Source (askHelpers now s) s fresh store helpers g before) : Backed s (.make g before) := by
  have reachable := source.reachable
  cases source with
  | stored loads _ => exact Or.inl loads
  | fetched _ _ saves => exact Or.inl (MemoryStore.load_saved reachable.wellFormed saves)
  | created _ _ _ => exact Or.inr rfl

/-- A group that is at the configured format and lists the node is adopted as it is. -/
theorem adopt_again (format : g.format = s.membership.format) {n : Node} (listed : g.find? s.node.name = some n) :
    adopt s g store = (.ok (.make g store), store) :=
  adopt_eq_ok_iff.mpr ⟨rfl, .make g store, .already format, .known listed⟩

/-- Let a start succeed. Its group is at the configured format, and the store left behind loads exactly
that group. If it has the configured name, a restart on that store goes on with it, whoever the helpers
are and whichever saves would fail: it asks nobody and saves nothing. -/
theorem restart_finds_the_group {fresh : Uuid} {now : String} {helpers : Helpers}
    (started : (run (askHelpers now s) s fresh store helpers).result = .ok r) :
    r.current.format = s.membership.format ∧
    (run (askHelpers now s) s fresh store helpers).store = r.store ∧
    r.store.load = .ok (some r.current) ∧
    (r.current.name = s.node.group →
      ∀ {W : Type} (ask : String → W → Except AdmissionError Group × W) (fresh' : Uuid) (world : W) (faults : List Bool),
        run ask s fresh' (r.facing faults).store world =
          ⟨.ok (r.facing faults), (r.facing faults).store, [], world⟩) := by
  obtain ⟨g, before, source, adopted⟩ := run_eq_ok started
  obtain ⟨kept, middle, declares, enlists⟩ := adopt_eq_ok_iff.mp adopted
  have reachable := declares.reachable source.reachable
  have loads := enlists.loads reachable (declares.backed source.reachable source.backed)
  have format : r.current.format = s.membership.format := enlists.format.trans declares.format
  have unheld : r.holds = Holds.empty := (declares.keeps.trans enlists.keeps).holds
  refine ⟨format, kept, loads, ?_⟩
  intro own W ask fresh' world faults
  have loads' : (r.facing faults).store.load = .ok (some r.current) := loads
  have same : Registry.make r.current (r.facing faults).store = r.facing faults := by
    rw [Registry.make, Registry.facing, unheld]
  obtain ⟨n, listed⟩ := enlists.listed
  rw [run, loads']
  simp only [resume, if_pos own, adopt_again format listed, same]

/-- The start has used up the saves that work, and a restart without any helper needs none. -/
theorem settled_group_is_found_again :
    (run (askHelpers "" seeker) seeker .zero ⟨none, [false, false, true]⟩ neighbours).result = .ok settled ∧
    settled.store.faults = [true] ∧
    run (askHelpers "" seeker) seeker .zero settled.store [] = ⟨.ok settled, settled.store, [], []⟩ := by
  obtain ⟨-, -, -, again⟩ := restart_finds_the_group run_neighbours
  exact ⟨run_neighbours, rfl, again rfl (askHelpers "" seeker) .zero [] [true]⟩

end Startup

end Roster

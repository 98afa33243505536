import Roster.Proofs.Admission.Run
import Roster.Proofs.Group.RoundTrip

/-!
# What a restart would load

Once anything has been published, the store holds the stream of the current group and nothing
else, whichever saves have failed before. So a restart loads what readers see.
-/

namespace Roster

/-- What is stored agrees with what has been published since the start. -/
structure Registry.Durable (start : Registry) (log : List Group) (r : Registry) : Prop where
  untouched : log = [] → r.current = start.current ∧ r.store.stream = start.store.stream
  stored : log ≠ [] → log.getLast? = some r.current ∧ ∃ stream, r.current.stream = .ok stream ∧
    r.store.stream = some stream ∧ r.store.load = .ok (some r.current)

theorem MemoryStore.load_stream {store : MemoryStore} {g : Group} {stream : String}
    (wf : g.WellFormed) (written : g.stream = .ok stream) (stored : store.stream = some stream) :
    store.load = .ok (some g) := by
  rw [load, stored]
  simp only [Group.ofStream_eq_ok_iff.mpr ⟨wf, written⟩]
  rfl

theorem Registry.Follows.durable {start r : Registry} {log : List Group} (h : start.Follows log r)
    (reachable : start.current.Reachable) : start.Durable log r := by
  refine ⟨h.quiet, fun some => ?_⟩
  have last := List.getLast?_eq_some_getLast some
  obtain ⟨current, stream, written, stored⟩ := h.stored _ last
  have wf := (h.reachable reachable).wellFormed
  rw [← current] at written last
  exact ⟨last, stream, written, stored, MemoryStore.load_stream wf written stored⟩

namespace Server

/-- Whatever is done to a server, in whatever order and whichever saves fail, its store holds what
it held at the start until a group is published, and the current group from then on: after every
action, and after every line within the bytes that come at once. -/
theorem store_agrees_with_current (service : Service) {group : Group} (reachable : group.Reachable)
    (store : MemoryStore) (actions : List Action) :
    (Registry.make group store).Durable ((make service (.make group store)).published actions)
      ((make service (.make group store)).run actions).registry ∧
    ∀ now key taken rest log session,
      ((make service (.make group store)).run actions).Midway now key taken rest log session →
      (Registry.make group store).Durable
        ((make service (.make group store)).published actions ++ log) session.registry := by
  have ran := run_follows (make service (.make group store)) actions
  constructor
  · exact ran.durable reachable
  · intro now key taken rest log session midway
    exact (ran.trans midway.follows).durable reachable

/-- Of two removals of a member the first cannot be saved, and the second is. -/
theorem store_agrees_after_failed_save :
    Group.sample.Reachable ∧ ∃ stream,
      let actions := [Action.event "" (.remove "n1"), .event "" (.remove "n1")]
      let server := (make ⟨false, ""⟩ (.make Group.sample ⟨none, [true]⟩)).run actions
      server.registry.current.stream = .ok stream ∧ server.registry.store.stream = some stream ∧
        server.registry.store.load = .ok (some server.registry.current) := by
  have reachable : Group.sample.Reachable := .read Group.read_sample
  refine ⟨reachable, ?_⟩
  obtain ⟨durable, -⟩ := store_agrees_with_current ⟨false, ""⟩ reachable ⟨none, [true]⟩
    [.event "" (.remove "n1"), .event "" (.remove "n1")]
  obtain ⟨-, agrees⟩ := durable.stored (by decide +kernel)
  exact agrees

end Server

end Roster

import Roster.Proofs.Admission.Answer
import Roster.Proofs.Group.RoundTrip
import Roster.Proofs.Registry.Refusal

/-!
# Ids along the life of a group

Edits, declarations at another format, streams that are written and read again and the requests of
peers make one group of another, in any order. Each of them leaves a record its id, or adds one
record under the id behind the last one given out. So an id is given out once, also when the node
that had it has been deleted since.
-/

namespace Roster

namespace Group

variable {g g' g'' : Group}

/-- Writes the group at one format and reads the stream at another. -/
def reload (g : Group) (written target : FormatVersion) : Except StreamError Group := do
  ofStreamAt (← g.streamAt written) target

/-- What an edit makes of the group; one that fails leaves it as it was. -/
def settle {ε : Type} (g : Group) : Except ε Group → Group
  | .ok g' => g'
  | .error _ => g

theorem settle_induction {ε : Type} {e : Except ε Group} {motive : Group → Prop} (same : motive g)
    (done : ∀ g', e = .ok g' → motive g') : motive (g.settle e) := by
  cases e with
  | ok g' => exact done g' rfl
  | error cause => exact same

/-- Reading back what was written is declaring the group at one format and then at the other. -/
theorem reload_eq_ok {written target : FormatVersion} (wf : g.WellFormed)
    (h : g.reload written target = .ok g') :
    ∃ middle stream, g.convert written = .ok middle ∧ ofStream stream = .ok middle ∧
      (g' = middle ∨ middle.convert target = .ok g') := by
  obtain ⟨stream, hstream, h⟩ := bind_eq_ok_iff.mp h
  obtain ⟨writable, -⟩ := streamAt_eq_ok_iff.mp hstream
  have converted := convert_eq_ok_iff.mpr ⟨writable.carries, rfl⟩
  have written := streamAt_eq_of_convert converted
  rw [hstream] at written
  have read := ofStream_eq_ok_iff.mpr ⟨wf.convert converted, written.symm⟩
  refine ⟨_, stream, converted, read, ?_⟩
  obtain ⟨middle, hmiddle, h⟩ := bind_eq_ok_iff.mp h
  obtain rfl := Except.ok.inj (read.symm.trans hmiddle)
  split at h
  · exact Or.inl (Except.ok.inj h).symm
  · exact Or.inr h

theorem Reachable.reload {written target : FormatVersion} (h : g.Reachable)
    (reloaded : g.reload written target = .ok g') : g'.Reachable := by
  obtain ⟨middle, stream, -, read, rfl | converted⟩ := reload_eq_ok h.wellFormed reloaded
  · exact .read read
  · exact .step (.read read) (.convert target converted)

/-- A record of the group has the node's name and id. -/
def Knows (g : Group) (n : Node) : Prop := ∃ m ∈ g.nodes, m.name = n.name ∧ m.id = n.id

/-- How names and ids pass from a group to the next: every record had its id before, but for one
that has a new name and the next id. -/
inductive Heir (g g' : Group) : Prop
  | kept (sequence : g'.sequence = g.sequence) (known : ∀ n ∈ g'.nodes, g.Knows n)
  | grown (new : Node) (absent : g.find? new.name = none) (next : g.sequence ≠ Counter.last)
      (id : new.id = g.sequence + 1) (sequence : g'.sequence = new.id)
      (known : ∀ n ∈ g'.nodes, n = new ∨ g.Knows n)

theorem heir_self (g : Group) : g.Heir g := .kept rfl fun n hn => ⟨n, hn, rfl, rfl⟩

theorem heir_add {n : Node} (h : g.add n = .ok g') : g.Heir g' := by
  obtain ⟨free, -, -, next, rfl⟩ := add_eq_ok_iff.mp h
  have absent : g.records.find? (g.enrol n).name = none := by
    rw [enrol_name]
    exact free
  have id : (g.enrol n).id = g.sequence + 1 := by rw [enrol, Node.restrict_id]
  refine .grown (g.enrol n) absent next id id.symm fun m hm => ?_
  exact ((Records.mem_insert_iff absent).mp hm).imp_right fun hm => ⟨m, hm, rfl, rfl⟩

/-- Changing records one by one passes every id on. -/
theorem heir_map (g : Group) (format : FormatVersion) (change : UInt32) {f : Node → Node}
    (names : ∀ n, (f n).name = n.name) (ids : ∀ n, (f n).id = n.id) :
    g.Heir { g with format := format, change := change, records := g.records.map f names } := by
  refine .kept rfl fun m hm => ?_
  obtain ⟨n, hn, rfl⟩ := List.mem_map.mp hm
  exact ⟨n, hn, (names n).symm, (ids n).symm⟩

theorem heir_remove {name : String} (h : g.remove name = .ok g') : g.Heir g' := by
  obtain ⟨-, -, rfl⟩ := remove_eq_ok_iff.mp h
  apply heir_map
  intro n
  split <;> rfl

theorem heir_move {name host : String} {port : UInt16} (h : g.move name host port = .ok g') :
    g.Heir g' := by
  obtain ⟨-, -, rfl⟩ := move_eq_ok_iff.mp h
  apply heir_map
  intro n
  split <;> rfl

theorem heir_delete {name : String} (h : g.delete name = .ok g') : g.Heir g' := by
  obtain ⟨-, -, rfl⟩ := delete_eq_ok_iff.mp h
  exact .kept rfl fun n hn => ⟨n, (Records.mem_erase_iff.mp hn).1, rfl, rfl⟩

theorem convert_keeps {format : FormatVersion} (h : g.convert format = .ok g') :
    g'.sequence = g.sequence ∧ ∀ n ∈ g'.nodes, g.Knows n := by
  obtain ⟨-, rfl⟩ := convert_eq_ok_iff.mp h
  refine ⟨rfl, fun m hm => ?_⟩
  obtain ⟨n, hn, rfl⟩ := List.mem_map.mp hm
  exact ⟨n, hn, (n.restrict_name format).symm, (n.restrict_id format).symm⟩

theorem heir_reload {written target : FormatVersion} (wf : g.WellFormed)
    (h : g.reload written target = .ok g') : g.Heir g' := by
  obtain ⟨middle, -, first, -, second⟩ := reload_eq_ok wf h
  obtain ⟨sequence, known⟩ := convert_keeps first
  rcases second with rfl | second
  · exact .kept sequence known
  · obtain ⟨sequence', known'⟩ := convert_keeps second
    refine .kept (sequence'.trans sequence) fun n hn => ?_
    obtain ⟨m, hm, name, id⟩ := known' n hn
    obtain ⟨k, hk, name', id'⟩ := known m hm
    exact ⟨k, hk, name'.trans name, id'.trans id⟩

end Group

namespace Registry

theorem heir_update {edit : Group → EditResult Group} {r : Registry}
    (each : ∀ g, edit r.current = .ok g → r.current.Heir g) :
    r.current.Heir (r.update edit).2.current := by
  rcases update_cases edit r with ⟨next, _, hedit, -, -, h⟩ | ⟨_, _, h⟩
  · rw [h]
    exact each next hedit
  · rw [h]
    exact r.current.heir_self

theorem heir_register (n : Node) (r : Registry) : r.current.Heir (r.register n).2.current := by
  cases registering n r with
  | new _ eq =>
    rw [eq]
    exact heir_update fun _ h => Group.heir_add h
  | refused _ _ eq =>
    rw [eq]
    exact r.current.heir_self
  | back _ _ _ _ eq =>
    rw [eq]
    exact r.current.heir_self
  | moved _ _ _ _ _ eq =>
    rw [eq]
    exact heir_update fun _ h => Group.heir_move h

end Registry

theorem Service.heir_answer (s : Service) (now line : String) (c : Connection) (r : Registry) :
    r.current.Heir (s.answer now line c r).registry.current := by
  cases answering s now line c r with
  | aside registry _ _ _ =>
    rw [registry]
    exact r.current.heir_self
  | join _ _ eq _ =>
    rw [eq, Turn.accept_current]
    exact Registry.heir_register _ r

/-- What is done to a group. A request is a line of a peer to a service that publishes the group,
whoever holds its members and whichever saves fail. -/
inductive Deed where
  | add (n : Node)
  | remove (name : String)
  | delete (name : String)
  | move (name host : String) (port : UInt16)
  | convert (format : FormatVersion)
  | reload (written target : FormatVersion)
  | request (service : Service) (now line : String) (c : Connection) (holds : Holds)
      (store : MemoryStore)

namespace Deed

variable {g : Group}

def apply (g : Group) : Deed → Group
  | add n => g.settle (g.add n)
  | remove name => g.settle (g.remove name)
  | delete name => g.settle (g.delete name)
  | move name host port => g.settle (g.move name host port)
  | convert format => g.settle (g.convert format)
  | reload written target => g.settle (g.reload written target)
  | request service now line c holds store =>
    (service.answer now line c ⟨g, holds, store⟩).registry.current

theorem heir (wf : g.WellFormed) (deed : Deed) : g.Heir (deed.apply g) := by
  have self := g.heir_self
  cases deed with
  | add n => exact Group.settle_induction self fun _ => Group.heir_add
  | remove name => exact Group.settle_induction self fun _ => Group.heir_remove
  | delete name => exact Group.settle_induction self fun _ => Group.heir_delete
  | move name host port => exact Group.settle_induction self fun _ => Group.heir_move
  | convert format =>
    refine Group.settle_induction self fun _ h => ?_
    obtain ⟨sequence, known⟩ := Group.convert_keeps h
    exact .kept sequence known
  | reload written target => exact Group.settle_induction self fun _ => Group.heir_reload wf
  | request service now line c holds store => exact service.heir_answer now line c ⟨g, holds, store⟩

theorem reachable (h : g.Reachable) (deed : Deed) : (deed.apply g).Reachable := by
  cases deed with
  | add n => exact Group.settle_induction h fun _ edited => .step h (.add n edited)
  | remove name => exact Group.settle_induction h fun _ edited => .step h (.remove name edited)
  | delete name => exact Group.settle_induction h fun _ edited => .step h (.delete name edited)
  | move name host port =>
    exact Group.settle_induction h fun _ edited => .step h (.move name host port edited)
  | convert format => exact Group.settle_induction h fun _ edited => .step h (.convert format edited)
  | reload written target => exact Group.settle_induction h fun _ => h.reload
  | request service now line c holds store =>
    exact (service.answer_follows now line c ⟨g, holds, store⟩).reachable h

end Deed

namespace Group

variable {start g g' : Group}

/-- The group after deeds, done in turn. -/
def after (g : Group) (deeds : List Deed) : Group := deeds.foldl Deed.apply g

theorem Heir.sequence_le (h : g.Heir g') : g.sequence ≤ g'.sequence := by
  cases h with
  | kept sequence _ =>
    rw [sequence]
    exact UInt32.le_refl _
  | grown new _ next id sequence _ =>
    rw [sequence, id]
    exact UInt32.le_of_lt (Counter.lt_succ next)

/-- A record had its name and id before, or its name is new and its id comes behind all others. -/
theorem Heir.known_or_new (h : g.Heir g') {n : Node} (hn : n ∈ g'.nodes) :
    g.Knows n ∨ g.find? n.name = none ∧ g.sequence < n.id := by
  cases h with
  | kept _ known => exact Or.inl (known n hn)
  | grown new absent next id _ known =>
    rcases known n hn with rfl | before
    · refine Or.inr ⟨absent, ?_⟩
      rw [id]
      exact Counter.lt_succ next
    · exact Or.inl before

theorem Reachable.after (h : g.Reachable) (deeds : List Deed) : (g.after deeds).Reachable := by
  induction deeds generalizing g with
  | nil => exact h
  | cons deed rest ih => exact ih (deed.reachable h)

theorem Reachable.sequence_le_after (h : g.Reachable) (deeds : List Deed) :
    g.sequence ≤ (g.after deeds).sequence := by
  induction deeds generalizing g with
  | nil => exact UInt32.le_refl _
  | cons deed rest ih =>
    exact UInt32.le_trans (deed.heir h.wellFormed).sequence_le (ih (deed.reachable h))

/-- The id is above all that the groups on the way through these deeds have had. -/
def Unused (start : Group) (deeds : List Deed) (id : UInt32) : Prop :=
  ∀ done, done <+: deeds → ∀ n ∈ (start.after done).nodes, n.id < id

theorem Reachable.unused (h : start.Reachable) {deeds : List Deed} {id : UInt32}
    (above : (start.after deeds).sequence < id) : start.Unused deeds id := by
  rintro done ⟨rest, rfl⟩ n hn
  have past := h.after done
  have bound := past.wellFormed.id_le n hn
  have later := past.sequence_le_after rest
  have same : start.after (done ++ rest) = (start.after done).after rest := List.foldl_append
  rw [same] at above
  exact UInt32.lt_of_le_of_lt (UInt32.le_trans bound later) above

/-- Let a group be created or read from a stream, and let any deeds follow. No id is above the
sequence. A node that is added gets an id above all that there have been since the start, those of
deleted nodes included. Whatever is done next, a record that is there afterwards has the id that its
name had, or its name is new and its id is above all that there have been. And at the end of the
sequence an add that nothing else stands against stops instead of starting over. -/
theorem ids_are_never_reused (reachable : start.Reachable) (deeds : List Deed) :
    let g := start.after deeds
    (∀ n ∈ g.nodes, n.id ≤ g.sequence) ∧
    (∀ n g', g.add n = .ok g' → ∃ m, g'.find? n.name = some m ∧ start.Unused deeds m.id) ∧
    (∀ deed : Deed, ∀ n ∈ (deed.apply g).nodes, (∃ m, g.find? n.name = some m ∧ m.id = n.id) ∨
      g.find? n.name = none ∧ start.Unused deeds n.id) ∧
    (g.sequence = Counter.last → ∀ n, g.find? n.name = none → n.kind.oldestFormat ≤ g.format →
      g.add n = .error .exhausted) := by
  intro g
  have now := reachable.after deeds
  refine ⟨now.wellFormed.id_le, ?_, ?_, ?_⟩
  · intro n g' added
    obtain ⟨free, -, -, next, rfl⟩ := add_eq_ok_iff.mp added
    have absent : g.records.find? (g.enrol n).name = none := by
      rw [enrol_name]
      exact free
    refine ⟨g.enrol n, ?_, reachable.unused ?_⟩
    · rw [← enrol_name g n]
      exact Records.find?_insert_self absent
    · rw [enrol, Node.restrict_id]
      exact Counter.lt_succ next
  · intro deed n hn
    rcases (deed.heir now.wellFormed).known_or_new hn with ⟨m, hm, name, id⟩ | ⟨absent, above⟩
    · exact Or.inl ⟨m, Records.find?_eq_some_iff.mpr ⟨hm, name⟩, id⟩
    · exact Or.inr ⟨absent, reachable.unused above⟩
  · intro last n free kind
    exact add_eq_error_iff.mpr (Or.inr (Or.inr ⟨free, kind, Or.inr last, rfl⟩))

/-- The node that had the first id is deleted, the group is written at one format and read at
another, and a node of the same name gets the second id. -/
theorem deleted_name_returns_with_second_id :
    let deeds := [Deed.delete "n1", .reload .v2 .v3]
    sample.Reachable ∧ ∃ g m, (sample.after deeds).add (.joining "n1" .electable "db" 7 none) = .ok g ∧
      g.find? "n1" = some m ∧ m.id = 2 ∧ sample.Unused deeds m.id := by
  intro deeds
  have reachable : sample.Reachable := .read read_sample
  have added : (sample.after deeds).add (.joining "n1" .electable "db" 7 none) =
      .ok ⟨"orders", Uuid.zero, .v3, 3, 2,
        Records.empty.insert ⟨"n1", 2, .electable, "db", 7, none, false, 3⟩⟩ := by decide +kernel
  obtain ⟨-, gives, -⟩ := ids_are_never_reused reachable deeds
  obtain ⟨m, found, unused⟩ := gives _ _ added
  have second : m.id = 2 := by
    obtain rfl := Option.some.inj found
    rfl
  exact ⟨reachable, _, m, added, found, second, unused⟩

end Group

end Roster

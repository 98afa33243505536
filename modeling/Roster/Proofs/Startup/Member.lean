import Roster.Proofs.Admission.Listing
import Roster.Proofs.Startup

/-!
# Whether a node starts as a member

A start leaves the node's own record alone if there is one, even if it says that the member has been
removed or is of another type. Servers hand out only groups that list the node as it is configured, so
such a record comes with a stored group or from a helper that is no server.
-/

namespace Roster

namespace Group

variable {g g' : Group} {name : String} {kind : NodeType}

/-- Declared at another format, a group lists what it has listed. -/
theorem lists_convert_iff {format : FormatVersion} (h : g.convert format = .ok g') :
    g'.Lists name kind ↔ g.Lists name kind := by
  rw [Lists, Lists, find?_convert h]
  cases g.find? name <;> simp

theorem lists_iff_of_known {n : Node} (known : g.find? name = some n) :
    g.Lists name kind ↔ n.removed = false ∧ n.kind = kind := by
  rw [Lists, known]
  simp

end Group

namespace Startup

variable {s : Settings} {g : Group} {r r' : Registry} {store after : MemoryStore}

theorem Declares.absent_iff (h : Declares s r r') {name : String} :
    r'.current.find? name = none ↔ r.current.find? name = none := by
  cases h with
  | already => exact Iff.rfl
  | anew _ updated =>
    rw [Group.find?_convert updated.converted name]
    exact Option.map_eq_none_iff

theorem Enlists.listed (h : Enlists s r r') : ∃ n, r'.current.find? s.node.name = some n := by
  cases h with
  | known listed => exact ⟨_, listed⟩
  | added _ updated =>
    obtain ⟨n, known, -⟩ := (Group.admits_add updated.edited).member
    exact ⟨n, known⟩

/-- A group that is adopted lists the node, unless it has come with another record of it. -/
theorem adopt_lists_iff (h : adopt s g store = (.ok r, after)) :
    (∃ n, r.current.find? s.node.name = some n) ∧
      (r.current.Lists s.node.name s.node.kind ↔
        ∀ n, g.find? s.node.name = some n → n.removed = false ∧ n.kind = s.node.kind) := by
  obtain ⟨-, middle, declares, enlists⟩ := adopt_eq_ok_iff.mp h
  have lists : middle.current.Lists s.node.name s.node.kind ↔ g.Lists s.node.name s.node.kind := by
    cases declares with
    | already => exact Iff.rfl
    | anew _ updated => exact Group.lists_convert_iff updated.converted
  have unknown : middle.current.find? s.node.name = none ↔ g.find? s.node.name = none := declares.absent_iff
  refine ⟨enlists.listed, ?_⟩
  cases enlists with
  | known known =>
    refine lists.trans ?_
    obtain ⟨m, stored⟩ : ∃ m, g.find? s.node.name = some m := by
      refine Option.ne_none_iff_exists'.mp fun none => ?_
      rw [unknown.mpr none] at known
      cases known
    rw [Group.lists_iff_of_known stored, stored]
    simp
  | added free updated =>
    have admits : middle.current.Admits s.localNode r.current := Group.admits_add updated.edited
    have absent : g.find? s.node.name = none := unknown.mp free
    refine ⟨fun _ n stored => ?_, fun _ => admits.lists⟩
    cases absent.symm.trans stored

variable {W : Type} {ask : String → W → Except AdmissionError Group × W} {fresh : Uuid} {world : W}

/-- The group that a start finds stored or is given by a helper. -/
def Given (ask : String → W → Except AdmissionError Group × W) (s : Settings) (store : MemoryStore) (world : W)
    (g : Group) : Prop :=
  store.load = .ok (some g) ∨
    store.load = .ok none ∧ (search ask s.node.helpers world).1 = .found g

/-- A start takes the group that it is given, or one without records. -/
theorem Source.given {before : MemoryStore} (source : Source ask s fresh store world g before) :
    (∀ g', Given ask s store world g' → g' = g) ∧
      (Given ask s store world g ∨ ∀ name, g.find? name = none) := by
  cases source with
  | stored loads own =>
    refine ⟨fun g' given => ?_, Or.inl (Or.inl loads)⟩
    rcases given with loads' | ⟨nothing, -⟩
    · cases loads.symm.trans loads'
      rfl
    · cases loads.symm.trans nothing
  | fetched nothing found saves =>
    refine ⟨fun g' given => ?_, Or.inl (Or.inr ⟨nothing, found⟩)⟩
    rcases given with loads | ⟨-, found'⟩
    · cases nothing.symm.trans loads
    · cases found.symm.trans found'
      rfl
  | created nothing nobody alone =>
    refine ⟨fun g' given => ?_, Or.inr fun name => rfl⟩
    rcases given with loads | ⟨-, found⟩
    · cases nothing.symm.trans loads
    · cases nobody.symm.trans found

theorem run_lists_iff (started : (run ask s fresh store world).result = .ok r) :
    (∃ n, r.current.find? s.node.name = some n) ∧
      (r.current.Lists s.node.name s.node.kind ↔ ∀ g, Given ask s store world g →
        ∀ n, g.find? s.node.name = some n → n.removed = false ∧ n.kind = s.node.kind) := by
  obtain ⟨g, before, source, adopted⟩ := run_eq_ok started
  obtain ⟨only, taken⟩ := source.given
  obtain ⟨known, lists⟩ := adopt_lists_iff adopted
  refine ⟨known, lists.trans ⟨fun fits g' given => ?_, fun all => ?_⟩⟩
  · obtain rfl := only g' given
    exact fits
  · rcases taken with given | none
    · exact all g given
    · intro n known
      cases (none _).symm.trans known

end Startup

theorem Server.InUse.join {s : Server} (used : s.InUse) (now key : String) (trusted : Bool) (version : UInt32)
    (node : Node) : (s.join now key trusted version node).2.InUse := by
  rw [Server.join]
  simp only
  split
  · exact used.run [.event now (.connect key trusted none), .event now (.endInput key)]
  · rename_i written _
    exact used.run [.event now (.connect key trusted none), .event now (.receive key (Line.bytes written)),
      .event now (.endInput key)]

/-- A helper that is out of reach or is a server in use. -/
def Helper.Genuine : Helper → Prop
  | .unreachable => True
  | .scripted _ _ => False
  | .live server _ => server.InUse

/-- A helper that is asked to admit a node is still genuine, and hands out a group that lists the node. -/
theorem Helper.Genuine.join {h : Helper} (genuine : h.Genuine) (now address : String) (stream : UInt32)
    (node : Node) : (h.join now address stream node).2.Genuine ∧
      ∀ g, (h.join now address stream node).1 = .ok g → g.Lists node.name node.kind := by
  cases h with
  | unreachable => exact ⟨genuine, fun g joined => by cases joined⟩
  | scripted wire dialed => exact genuine.elim
  | live server trusted =>
    have used : server.InUse := genuine
    exact ⟨used.join now address trusted stream node, fun g joined => used.join_lists joined⟩

/-- Every helper is genuine. -/
def Helpers.Genuine (helpers : Helpers) : Prop := ∀ entry ∈ helpers, entry.2.Genuine

theorem Helpers.Genuine.ask {helpers : Helpers} (genuine : helpers.Genuine) (now address : String)
    (stream : UInt32) (node : Node) : (helpers.ask now stream node address).2.Genuine ∧
      ∀ g, (helpers.ask now stream node address).1 = .ok g → g.Lists node.name node.kind := by
  induction helpers with
  | nil => exact ⟨genuine, fun g asked => by cases asked⟩
  | cons entry rest ih =>
    obtain ⟨first, others⟩ := List.forall_mem_cons.mp genuine
    rw [Helpers.ask]
    split
    · obtain ⟨after, lists⟩ := first.join now address stream node
      exact ⟨List.forall_mem_cons.mpr ⟨after, others⟩, lists⟩
    · obtain ⟨after, lists⟩ := ih others
      exact ⟨List.forall_mem_cons.mpr ⟨first, after⟩, lists⟩

namespace Startup

variable {s : Settings} {fresh : Uuid} {store : MemoryStore} {now : String} {helpers : Helpers} {r : Registry}

/-- Let a start succeed. Its group has a record under the configured name. It lists the node as a current
member of the configured type exactly if the group that was stored, or was found by asking helpers, has
no other record under the name. Without a stored group and with genuine helpers it always does. -/
theorem started_as_member_iff (started : (run (askHelpers now s) s fresh store helpers).result = .ok r) :
    (∃ n, r.current.find? s.node.name = some n) ∧
    (r.current.Lists s.node.name s.node.kind ↔ ∀ g, Given (askHelpers now s) s store helpers g →
      ∀ n, g.find? s.node.name = some n → n.removed = false ∧ n.kind = s.node.kind) ∧
    (store.load = .ok none → helpers.Genuine →
      r.current.Lists s.node.name s.node.kind) := by
  obtain ⟨known, lists⟩ := run_lists_iff started
  refine ⟨known, lists, fun nothing genuine => lists.mpr fun g given n stored => ?_⟩
  rcases given with loads | ⟨-, found⟩
  · cases nothing.symm.trans loads
  · have each : ∀ address (w : Helpers), w.Genuine → (askHelpers now s address w).2.Genuine ∧
        ∀ g, (askHelpers now s address w).1 = .ok g → g.Lists s.node.name s.node.kind :=
      fun address w genuine => genuine.ask now address s.membership.stream s.localNode
    have listed : g.Lists s.node.name s.node.kind := search_found_in each genuine found
    exact (Group.lists_iff_of_known stored).mp listed

/-- A server of another group may be a stranger, but the group that it hands out lists the node. -/
theorem stranger_lists_node :
    (run (askHelpers "" sample) sample .zero .empty stranger).result =
      .ok (.make inventory (MemoryStore.empty.save inventory).2) ∧
    MemoryStore.empty.load = .ok none ∧ stranger.Genuine ∧ inventory.Lists "n1" .electable := by
  have genuine : stranger.Genuine :=
    List.forall_mem_singleton.mpr ⟨_, _, _, [], .empty "inventory" .zero .v1, rfl⟩
  obtain ⟨-, -, lists⟩ := started_as_member_iff run_stranger
  exact ⟨run_stranger, rfl, genuine, lists rfl genuine⟩

/-- The group orders after its only member has been removed. -/
def departed : Group :=
  ⟨"orders", .zero, .v1, 2, 1,
    Records.empty.insert ⟨"n1", 1, .electable, "127.0.0.1", 7001, none, true, 2⟩⟩

/-- With valid settings, a node whose member has been removed starts with the group that it has stored
and is no member of it. -/
theorem removed_node_starts : sample.validate = .ok () ∧
    let store := (MemoryStore.empty.save departed).2
    (run (askHelpers "" sample) sample .zero store []).result = .ok (.make departed store) ∧
      sample.node.name = "n1" ∧ ¬ departed.Lists "n1" .electable := by
  refine ⟨by decide +kernel, by decide +kernel, rfl, ?_⟩
  have known : departed.find? "n1" = some ⟨"n1", 1, .electable, "127.0.0.1", 7001, none, true, 2⟩ := by
    decide +kernel
  rw [Group.lists_iff_of_known known]
  decide

end Startup

end Roster

import Roster.Proofs.Startup.Member

/-!
# Joining through helpers

A node with nothing stored asks its helpers in turn, up to the first one that hands out a group or
refuses it. The group that it is handed is the one it goes on with, declared at its own format; with
helpers it never makes a group of its own.
-/

namespace Roster

namespace MemoryStore

variable {store : MemoryStore}

/-- So many saves to come do not fail. -/
def Works (store : MemoryStore) (saves : Nat) : Prop := true ∉ store.faults.take saves

theorem works_succ_iff {saves : Nat} : store.Works (saves + 1) ↔
    store.faults.headD false = false ∧ { store with faults := store.faults.drop 1 }.Works saves := by
  rw [Works, Works]
  cases store.faults with
  | nil => simp
  | cons fails faults => cases fails <;> simp

end MemoryStore

/-- The groups are one and the same, though perhaps not at the same format: nothing that tells groups
or their members apart has changed. -/
structure Group.Redeclares (g g' : Group) : Prop where
  name : g'.name = g.name
  uuid : g'.uuid = g.uuid
  change : g'.change = g.change
  sequence : g'.sequence = g.sequence
  ids : g'.nodes.map (fun n => (n.name, n.id)) = g.nodes.map (fun n => (n.name, n.id))

theorem Group.redeclares_of_convert {g g' : Group} {format : FormatVersion} (h : g.convert format = .ok g') :
    g.Redeclares g' := by
  obtain ⟨-, rfl⟩ := convert_eq_ok_iff.mp h
  refine ⟨rfl, rfl, rfl, rfl, ?_⟩
  have each : ∀ n : Node, ((n.restrict format).name, (n.restrict format).id) = (n.name, n.id) := by simp
  exact List.map_map.trans (List.map_congr_left fun n _ => each n)

namespace Startup

section Adopted

variable {s : Settings} {g : Group} {r r' : Registry} {store after : MemoryStore} {fresh : Uuid}

theorem Declares.converts (h : Declares s r r') (wf : r.current.WellFormed) :
    r.current.convert s.membership.format = .ok r'.current := by
  cases h with
  | already same =>
    rw [← same]
    exact wf.convert_self
  | anew _ updated => exact updated.converted

/-- A group that can be written can be declared anew if its conversion is possible and is saved. -/
theorem exists_declares_iff (wf : r.current.WellFormed) (writable : r.current.Writable r.current.format) :
    (∃ r', Declares s r r') ↔ (∃ g', r.current.convert s.membership.format = .ok g') ∧
      (r.current.format = s.membership.format ∨ r.store.faults.headD false = false) := by
  have written : ∀ {g'}, r.current.convert s.membership.format = .ok g' → ∃ stream, g'.stream = .ok stream :=
    fun converted => Group.exists_streamAt_iff.mpr (writable.convert wf converted)
  constructor
  · rintro ⟨r', declares⟩
    refine ⟨⟨_, declares.converts wf⟩, ?_⟩
    cases declares with
    | already same => exact Or.inl same
    | anew _ updated =>
      obtain ⟨stream, spelled⟩ := written updated.converted
      exact Or.inr ((Registry.save_eq_ok_iff spelled).mp updated.saved).1
  · rintro ⟨⟨g', converted⟩, works⟩
    by_cases same : r.current.format = s.membership.format
    · exact ⟨r, .already same⟩
    · obtain ⟨stream, spelled⟩ := written converted
      have edited : (GroupEdit.convert s.membership.format).run r.current = .ok g' :=
        refusing_eq_ok_iff.mpr (mapError_eq_ok_iff.mpr converted)
      have saved := (Registry.save_eq_ok_iff spelled).mpr ⟨works.resolve_left same, rfl⟩
      exact ⟨⟨g', r.holds, _⟩, .anew same ⟨edited, saved, rfl⟩⟩

/-- A group that lists the node has only to be declared. -/
theorem adopt_listed_iff (listed : (g.find? s.node.name).isSome = true) :
    adopt s g store = (.ok r, after) ↔ after = r.store ∧ Declares s (.make g store) r := by
  rw [adopt_eq_ok_iff]
  refine and_congr_right fun _ => ?_
  constructor
  · rintro ⟨middle, declares, known | ⟨absent, -⟩⟩
    · exact declares
    · have none : g.find? s.node.name = none := declares.absent_iff.mp absent
      rw [none] at listed
      cases listed
  · intro declares
    obtain ⟨n, known⟩ : ∃ n, r.current.find? s.node.name = some n := by
      refine Option.ne_none_iff_exists'.mp fun absent => ?_
      have none : g.find? s.node.name = none := declares.absent_iff.mp absent
      rw [none] at listed
      cases listed
    exact ⟨r, declares, .known known⟩

/-- How many saves it takes to go on with a group that has been handed out. -/
def saves (s : Settings) (g : Group) : Nat := if g.format = s.membership.format then 1 else 2

theorem works_saves_iff : store.Works (saves s g) ↔ store.faults.headD false = false ∧
    (g.format = s.membership.format ∨ (store.faults.drop 1).headD false = false) := by
  have none : ∀ store : MemoryStore, store.Works 0 := fun store => List.not_mem_nil
  rw [saves]
  by_cases same : g.format = s.membership.format
  · rw [if_pos same, MemoryStore.works_succ_iff]
    simp [same, none]
  · rw [if_neg same, MemoryStore.works_succ_iff, MemoryStore.works_succ_iff]
    simp [same, none]

/-- A group that has been handed out is gone on with, unless a save fails or the configured format cannot
carry it. -/
theorem exists_commenced_iff {reply : String} (gives : Reply.Gives s.node.name reply g) :
    (∃ r, (commence s fresh (.found g) store).1 = .ok r) ↔
      (∃ g', g.convert s.membership.format = .ok g') ∧ store.Works (saves s g) := by
  obtain ⟨reachable, writable⟩ := gives.sound
  obtain ⟨stream, written⟩ := Group.exists_streamAt_iff.mpr writable
  have declared : (∃ r, Declares s (.make g ⟨some stream, store.faults.drop 1⟩) r) ↔ _ :=
    exists_declares_iff reachable.wellFormed writable
  rw [works_saves_iff]
  constructor
  · rintro ⟨r, commenced⟩
    rcases commence_eq_ok (Prod.ext commenced rfl : commence s fresh (.found g) store = (.ok r, _)) with
      ⟨_, saved, same, kept, adopted⟩ | ⟨nobody, -⟩
    · cases same
      obtain ⟨first, rfl⟩ := (Registry.save_eq_ok_iff written).mp kept
      obtain ⟨-, declares⟩ := (adopt_listed_iff gives.listed).mp adopted
      obtain ⟨converted, second⟩ := declared.mp ⟨r, declares⟩
      exact ⟨converted, first, second⟩
    · cases nobody
  · rintro ⟨converted, first, second⟩
    obtain ⟨r, declares⟩ := declared.mpr ⟨converted, second⟩
    have kept := (Registry.save_eq_ok_iff written).mpr ⟨first, rfl⟩
    have adopted := (adopt_listed_iff gives.listed).mpr ⟨rfl, declares⟩
    refine ⟨r, ?_⟩
    rw [commence, kept]
    exact congrArg Prod.fst adopted

/-- What is gone on with is the group that has been handed out. -/
theorem commenced_eq {reply : String} (gives : Reply.Gives s.node.name reply g)
    (commenced : (commence s fresh (.found g) store).1 = .ok r) :
    g.convert s.membership.format = .ok r.current := by
  rcases commence_eq_ok (Prod.ext commenced rfl : commence s fresh (.found g) store = (.ok r, _)) with
    ⟨_, saved, same, -, adopted⟩ | ⟨nobody, -⟩
  · cases same
    obtain ⟨-, declares⟩ := (adopt_listed_iff gives.listed).mp adopted
    exact declares.converts gives.sound.1.wellFormed
  · cases nobody

/-- A group of the node's own has the configured name and the fresh identity. -/
theorem created_eq (commenced : (commence s fresh .nobody store).1 = .ok r) :
    r.current.name = s.node.group ∧ r.current.uuid = fresh := by
  rcases commence_eq_ok (Prod.ext commenced rfl : commence s fresh .nobody store = (.ok r, _)) with
    ⟨g, saved, found, -⟩ | ⟨-, -, adopted⟩
  · cases found
  · obtain ⟨-, middle, declares, enlists⟩ := adopt_eq_ok_iff.mp adopted
    have keeps := declares.keeps.trans enlists.keeps
    exact ⟨keeps.name, keeps.uuid⟩

end Adopted

section Asked

variable {s : Settings} {now : String} {helpers : Helpers} {addresses : List String}

/-- What is heard at addresses that are asked in turn. -/
def told (now : String) (s : Settings) : List String → Helpers → List (Except AdmissionError String)
  | [], _ => []
  | address :: rest, helpers =>
    helpers.reply now s.membership.stream s.localNode address ::
      told now s rest (askHelpers now s address helpers).2

/-- What is heard says whether the node may join. -/
def Decides (name : String) (heard : Except AdmissionError String) : Prop :=
  ∃ reply, heard = .ok reply ∧
    ((∃ g, Reply.Gives name reply g) ∨ ∃ stream format reason, Reply.Refuses reply stream format reason)

theorem askHelpers_fst (address : String) : (askHelpers now s address helpers).1 =
    helpers.reply now s.membership.stream s.localNode address >>= Reply.readGroup s.node.name :=
  Helpers.ask_fst helpers

/-- A helper that does not decide is no more than a helper that failed. -/
theorem ask_undecided {address : String}
    (undecided : ¬ Decides s.node.name (helpers.reply now s.membership.stream s.localNode address)) :
    ∃ e, (askHelpers now s address helpers).1 = .error e ∧ isRefusal e = false := by
  rw [askHelpers_fst]
  have unrefused : ∀ stream format reason,
      helpers.reply now s.membership.stream s.localNode address >>= Reply.readGroup s.node.name ≠
        .error (.refused stream format reason) := by
    intro stream format reason h
    rcases bind_eq_error_iff.mp h with unheard | ⟨reply, heard, read⟩
    · exact Helpers.reply_ne_refused helpers stream format reason unheard
    · exact undecided ⟨reply, heard, Or.inr ⟨_, _, _, Reply.readGroup_eq_refused_iff.mp read⟩⟩
  cases read : helpers.reply now s.membership.stream s.localNode address >>= Reply.readGroup s.node.name with
  | ok g =>
    obtain ⟨reply, heard, read⟩ := bind_eq_ok_iff.mp read
    exact absurd ⟨reply, heard, Or.inl ⟨g, Reply.readGroup_eq_ok_iff.mp read⟩⟩ undecided
  | error e =>
    refine ⟨e, rfl, ?_⟩
    cases e with
    | refused stream format reason => exact absurd read (unrefused stream format reason)
    | _ => rfl

/-- Helpers that do not decide are passed over. -/
theorem search_passes {passed rest : List (Except AdmissionError String)}
    (heard : told now s addresses helpers = passed ++ rest) (undecided : ∀ t ∈ passed, ¬ Decides s.node.name t) :
    ∃ later, told now s (addresses.drop passed.length) later = rest ∧
      search (askHelpers now s) addresses helpers =
        let (result, dialed, last) := search (askHelpers now s) (addresses.drop passed.length) later
        (result, addresses.take passed.length ++ dialed, last) := by
  induction passed generalizing addresses helpers with
  | nil => exact ⟨helpers, heard, rfl⟩
  | cons t passed ih =>
    cases addresses with
    | nil => cases heard
    | cons address more =>
      obtain ⟨here, there⟩ := List.cons.inj heard
      obtain ⟨first, others⟩ := List.forall_mem_cons.mp undecided
      rw [← here] at first
      obtain ⟨e, failed, passable⟩ := ask_undecided first
      obtain ⟨later, same, eq⟩ := ih there others
      refine ⟨later, same, ?_⟩
      rw [search]
      rcases asked : askHelpers now s address helpers with ⟨result, after⟩
      rw [asked] at failed eq
      simp only at failed eq
      subst failed
      simp only [passable, eq]
      rfl

theorem told_eq_cons {t : Except AdmissionError String} {rest : List (Except AdmissionError String)}
    (heard : told now s addresses helpers = t :: rest) : ∃ address more, addresses = address :: more ∧
      (askHelpers now s address helpers).1 = t >>= Reply.readGroup s.node.name := by
  cases addresses with
  | nil => cases heard
  | cons address more =>
    obtain ⟨rfl, -⟩ := List.cons.inj heard
    exact ⟨address, more, rfl, askHelpers_fst address⟩

theorem search_of_ok {address : String} {g : Group} (asked : (askHelpers now s address helpers).1 = .ok g)
    (more : List String) : search (askHelpers now s) (address :: more) helpers =
      (.found g, [address], (askHelpers now s address helpers).2) := by
  rw [search]
  split
  · rename_i ask
    rw [ask] at asked ⊢
    cases asked
    rfl
  · rename_i ask
    rw [ask] at asked
    cases asked

theorem search_of_refused {address reason : String} {stream : UInt32} {format : UInt16}
    (asked : (askHelpers now s address helpers).1 = .error (.refused stream format reason)) (more : List String) :
    search (askHelpers now s) (address :: more) helpers =
      (.refused address (.refused stream format reason), [address], (askHelpers now s address helpers).2) := by
  rw [search]
  split
  · rename_i ask
    rw [ask] at asked
    cases asked
  · rename_i ask
    rw [ask] at asked ⊢
    cases asked
    rfl

/-- Either nobody decides, or somebody is the first to. -/
theorem exists_first_decision (name : String) (heard : List (Except AdmissionError String)) :
    (∀ t ∈ heard, ¬ Decides name t) ∨ ∃ passed t rest, heard = passed ++ t :: rest ∧
      (∀ t ∈ passed, ¬ Decides name t) ∧ Decides name t := by
  induction heard with
  | nil => exact Or.inl (List.forall_mem_nil _)
  | cons t heard ih =>
    by_cases first : Decides name t
    · exact Or.inr ⟨[], t, heard, rfl, List.forall_mem_nil _, first⟩
    · rcases ih with none | ⟨passed, t', rest, rfl, undecided, decides⟩
      · exact Or.inl (List.forall_mem_cons.mpr ⟨first, none⟩)
      · exact Or.inr ⟨t :: passed, t', rest, rfl, List.forall_mem_cons.mpr ⟨first, undecided⟩, decides⟩

end Asked

/-- How a start without a stored group goes, as helpers are heard. The first of them to decide is the
last to be dialed. If it hands out a group, then that group is gone on with, as long as it can be
declared at the configured format and the saves work. If it refuses, or if nobody decides, the start
fails and leaves the store alone. A new group is made by a node without helpers only. -/
inductive Course (s : Settings) (fresh : Uuid) (store : MemoryStore) (heard : List (Except AdmissionError String))
    (report : Report Helpers) : Prop
  | joined {passed rest : List (Except AdmissionError String)} {reply : String} {g : Group}
      (first : heard = passed ++ .ok reply :: rest) (undecided : ∀ t ∈ passed, ¬ Decides s.node.name t)
      (gives : Reply.Gives s.node.name reply g)
      (dialed : report.dialed = s.node.helpers.take (passed.length + 1))
      (succeeds : (∃ r, report.result = .ok r) ↔
        (∃ g', g.convert s.membership.format = .ok g') ∧ store.Works (saves s g))
      (same : ∀ r, report.result = .ok r → g.convert s.membership.format = .ok r.current ∧ g.Redeclares r.current)
  | refused {passed rest : List (Except AdmissionError String)} {reply address reason : String} {stream : UInt32}
      {format : UInt16} (first : heard = passed ++ .ok reply :: rest)
      (undecided : ∀ t ∈ passed, ¬ Decides s.node.name t) (refuses : Reply.Refuses reply stream format reason)
      (dialed : report.dialed = s.node.helpers.take (passed.length + 1))
      (asked : s.node.helpers[passed.length]? = some address)
      (fails : report.result = .error (.refused (.refused address (.refused stream format reason))))
      (untouched : report.store = store)
  | unanswered (undecided : ∀ t ∈ heard, ¬ Decides s.node.name t) (anybody : s.node.helpers ≠ [])
      (dialed : report.dialed = s.node.helpers)
      (fails : report.result = .error (.refused (.noHelper s.node.group))) (untouched : report.store = store)
  | alone (nobody : s.node.helpers = []) (dialed : report.dialed = [])
      (created : ∀ r, report.result = .ok r → r.current.name = s.node.group ∧ r.current.uuid = fresh)

variable {s : Settings} {now : String} {fresh : Uuid} {store : MemoryStore} {helpers : Helpers}

theorem length_told (now : String) (s : Settings) (addresses : List String) (helpers : Helpers) :
    (told now s addresses helpers).length = addresses.length := by
  induction addresses generalizing helpers with
  | nil => rfl
  | cons address rest ih => exact congrArg (· + 1) (ih _)

theorem take_succ_of_drop {as more : List String} {n : Nat} {a : String} (h : as.drop n = a :: more) :
    as.take n ++ [a] = as.take (n + 1) ∧ as[n]? = some a := by
  have next : as[n]? = some a := by
    rw [← List.head?_drop, h]
    rfl
  exact ⟨by rw [List.take_add_one, next, Option.toList_some], next⟩

/-- A start without a stored group goes by the first helper that decides, whatever the helpers do. -/
theorem first_decision_settles_the_start (nothing : store.load = .ok none) :
    Course s fresh store (told now s s.node.helpers helpers) (run (askHelpers now s) s fresh store helpers) := by
  rcases exists_first_decision s.node.name (told now s s.node.helpers helpers) with
    undecided | ⟨passed, t, rest, first, undecided, reply, rfl, ⟨g, gives⟩ | ⟨stream, format, reason, refuses⟩⟩
  · obtain ⟨later, -, searched⟩ := search_passes (List.append_nil _).symm undecided
    rw [length_told, List.drop_length, List.take_length] at searched
    rw [run_of_search nothing searched]
    by_cases nobody : s.node.helpers = []
    · exact .alone nobody (by rw [nobody]; rfl) fun r started => created_eq started
    · have fails : commence s fresh .nobody store = (.error (.refused (.noHelper s.node.group)), store) :=
        if_neg (by simpa using nobody)
      exact .unanswered undecided nobody (List.append_nil _) (congrArg Prod.fst fails) (congrArg Prod.snd fails)
  · obtain ⟨later, heard, searched⟩ := search_passes first undecided
    obtain ⟨address, more, split, asked⟩ := told_eq_cons heard
    obtain ⟨dialed, -⟩ := take_succ_of_drop split
    rw [split, search_of_ok (asked.trans (Reply.readGroup_eq_ok_iff.mpr gives)) more] at searched
    rw [run_of_search nothing searched]
    refine .joined first undecided gives dialed (exists_commenced_iff gives) fun r started => ?_
    have converted := commenced_eq gives started
    exact ⟨converted, Group.redeclares_of_convert converted⟩
  · obtain ⟨later, heard, searched⟩ := search_passes first undecided
    obtain ⟨address, more, split, asked⟩ := told_eq_cons heard
    obtain ⟨dialed, last⟩ := take_succ_of_drop split
    rw [split, search_of_refused (asked.trans (Reply.readGroup_eq_refused_iff.mpr refuses)) more] at searched
    rw [run_of_search nothing searched]
    exact .refused first undecided refuses dialed last rfl rfl

/-- Settings of a node of the group orders that has four helpers. -/
def seeker : Settings := { sample with node := { sample.node with helpers := ["h:0", "h:1", "h:2", "h:3"] } }

/-- One helper is out of reach and the next one sends half a verdict. Of the others, that would decide,
the first serves the group orders at the newest format. -/
def neighbours : Helpers :=
  [("h:0", .unreachable),
    ("h:1", .scripted (.ofArrivals [.bytes (Line.bytes "INCOMPATIBLE 7 3")]) false),
    ("h:2", .live (.make ⟨false, ""⟩ (.make (.empty "orders" .zero .v3) .empty)) true),
    ("h:3", .scripted (.ofArrivals [.bytes (Line.bytes "INCOMPATIBLE 7 3 too-old")]) false)]

/-- The group orders with the node as its first member. -/
def orders (format : FormatVersion) (software : Option String) : Group :=
  ⟨"orders", .zero, format, 1, 1,
    Records.empty.insert ⟨"n1", 1, .electable, "127.0.0.1", 7001, software, false, 1⟩⟩

/-- What the node goes on with when two saves have worked and the next one will not. -/
def settled : Registry := .make (orders .v1 none) (MemoryStore.save (orders .v1 none) ⟨none, [false, true]⟩).2

theorem search_neighbours :
    (search (askHelpers "" seeker) seeker.node.helpers neighbours).1 = .found (orders .v3 (some "0.3.0")) ∧
      (search (askHelpers "" seeker) seeker.node.helpers neighbours).2.1 = ["h:0", "h:1", "h:2"] := by
  decide +kernel

/-- The group is saved as it is handed out, and again at the older format. -/
theorem run_neighbours :
    (run (askHelpers "" seeker) seeker .zero ⟨none, [false, false, true]⟩ neighbours).result = .ok settled := by
  obtain ⟨found, -⟩ := search_neighbours
  rw [run_of_nothing rfl, found]
  decide +kernel

theorem third_helper_settles_the_start :
    let store : MemoryStore := ⟨none, [false, false, true]⟩
    let report := run (askHelpers "" seeker) seeker .zero store neighbours
    store.load = .ok none ∧ report.result = .ok settled ∧ report.dialed = ["h:0", "h:1", "h:2"] ∧
      Course seeker .zero store (told "" seeker seeker.node.helpers neighbours) report :=
  ⟨rfl, run_neighbours, (dialed_of_nothing rfl).trans search_neighbours.2, first_decision_settles_the_start rfl⟩

end Startup

end Roster

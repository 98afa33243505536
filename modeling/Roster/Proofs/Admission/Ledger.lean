import Mathlib.Data.Set.Card
import Mathlib.Logic.Function.Basic
import Roster.Proofs.Admission.Dialogue
import Roster.Proofs.Admission.Join
import Roster.Proofs.Registry.Holds

/-!
# Who is active

What holds a name can be told from outside: an operator's guard from when it is granted until it is
released or given to another name, and a connection, as long as it is served, the name that it was
last admitted under. A ledger keeps count of this from requests and their outcomes alone. The names
that a registry calls active are those that the ledger has a holder for.
-/

namespace Roster

/-- The name that a request admits, if it is answered by a group. -/
def admitted? : String × Reply → Option String
  | (request, .group _ _) =>
    match Request.parse request with
    | .ok (.join _ _ n) => some n.name
    | _ => none
  | _ => none

/-- The name that the last of the admitting turns admits, or the one before if there is none. -/
def latest (turns : List (String × Reply)) (before : Option String) : Option String :=
  (turns.filterMap admitted?).getLast?.or before

theorem latest_append (turns more : List (String × Reply)) (before : Option String) :
    latest (turns ++ more) before = latest more (latest turns before) := by
  rw [latest, latest, latest, List.filterMap_append, List.getLast?_append, Option.or_assoc]

/-- A reply that is no group admits nothing. -/
theorem latest_of_no_group {reply : Option Reply} (other : ∀ format stream, reply ≠ some (.group format stream))
    (request : String) (before : Option String) :
    latest (reply.map (Prod.mk request)).toList before = before := by
  cases reply with
  | none => rfl
  | some told =>
    cases told with
    | group format stream => exact absurd rfl (other format stream)
    | _ => rfl

theorem latest_of_group {request : String} {version : UInt32} {written format : FormatVersion} {n : Node}
    (parsed : Request.parse request = .ok (.join version written n)) (stream : String)
    (before : Option String) :
    latest (Option.map (Prod.mk request) (some (.group format stream))).toList before = some n.name := by
  have admitted : admitted? (request, .group format stream) = some n.name := by simp only [admitted?, parsed]
  simp [latest, admitted]

/-- A connection that goes on holds the name it was last admitted under. -/
theorem Turn.accept_latest {request : String} {version : UInt32} {written : FormatVersion} {n : Node}
    {held : Option String} {r : Registry} (parsed : Request.parse request = .ok (.join version written n))
    (going : (accept n held r).ended = none) :
    (accept n held r).held = latest ((accept n held r).reply.map (Prod.mk request)).toList held := by
  have sent : ∀ {g : Group} {kept : Option String} {r' : Registry}, (sendGroup g kept r').ended = none →
      ∃ stream, (sendGroup g kept r').reply = some (.group g.format stream) := by
    intro g kept r' going
    rw [sendGroup] at going ⊢
    cases written : g.stream with
    | ok stream => exact ⟨stream, rfl⟩
    | error e =>
      rw [written] at going
      cases going
  cases accepting n held r with
  | refused _ kept reply => rw [kept, latest_of_no_group reply]
  | again _ same eq =>
    rw [eq] at going ⊢
    obtain ⟨stream, reply⟩ := sent going
    rw [reply, latest_of_group parsed, sendGroup_held, same]
  | anew _ eq =>
    rw [eq] at going ⊢
    obtain ⟨stream, reply⟩ := sent going
    rw [reply, latest_of_group parsed, sendGroup_held]

theorem Service.answer_latest {s : Service} {now line : String} {c : Connection} {r : Registry}
    (going : (s.answer now line c r).ended = none) :
    (s.answer now line c r).held = latest ((s.answer now line c r).reply.map (Prod.mk line)).toList c.held := by
  cases answering s now line c r with
  | aside _ kept reply _ => rw [kept, latest_of_no_group reply]
  | join parsed _ eq _ =>
    rw [eq] at going ⊢
    exact Turn.accept_latest parsed going

theorem Session.takeAll_latest (service : Service) (now : String) (s : Session)
    (lines : List (Except AdmissionError String)) (going : (s.takeAll service now lines).ended = none) :
    (s.takeAll service now lines).connection.held =
      latest (s.dialogue service now lines) s.connection.held := by
  induction lines generalizing s with
  | nil => rfl
  | cons line rest ih =>
    have whole : (s.takeAll service now (line :: rest)).connection.held =
        latest ((s.take service now line).dialogue service now rest) (s.take service now line).connection.held :=
      ih (s.take service now line) going
    have middle : (s.take service now line).ended = none := by
      by_contra ended
      have last : (s.take service now line).takeAll service now rest = s.take service now line :=
        takeAll_of_ended (Option.isSome_iff_ne_none.mpr ended) rest
      exact ended (last ▸ going)
    have start : ¬ s.ended.isSome = true := by
      intro ended
      rw [take_of_ended ended] at middle
      exact Option.isSome_iff_ne_none.mp ended middle
    rw [dialogue, latest_append, whole]
    congr 1
    cases line with
    | error e =>
      rw [take.eq_def, if_neg start] at middle
      cases middle
    | ok text =>
      rw [take_of_going start] at middle ⊢
      rw [turn_of_going start]
      exact Service.answer_latest middle

/-- Who holds which name: the guards of operators by their keys, and the connections by theirs. A
connection that is not served is not listed, and one that is served may hold nothing. -/
structure Ledger where
  guards : String → Option String
  served : String → Option (Option String)

namespace Ledger

def blank : Ledger := ⟨fun _ => none, fun _ => none⟩

def grant (l : Ledger) (guard : String) (held : Option String) : Ledger :=
  { l with guards := Function.update l.guards guard held }

/-- A connection is taken that holds nothing yet. -/
def greet (l : Ledger) (key : String) : Ledger :=
  { l with served := Function.update l.served key (some none) }

/-- Requests on a connection are answered, and perhaps it has ended then. -/
def hear (l : Ledger) (key : String) (turns : List (String × Reply)) (ended : Option Ending) : Ledger :=
  let left := if ended.isSome then none else (l.served key).map (latest turns)
  { l with served := Function.update l.served key left }

/-- The guards that hold a name. -/
def guarding (l : Ledger) (name : String) : Set String := {guard | l.guards guard = some name}

/-- The connections that hold a name. -/
def serving (l : Ledger) (name : String) : Set String := {key | l.served key = some (some name)}

/-- Somebody holds the name. -/
def Holds (l : Ledger) (name : String) : Prop := (l.guarding name).Nonempty ∨ (l.serving name).Nonempty

end Ledger

def Outcome.ended : Outcome → Option Ending
  | .served _ ended => ended
  | _ => none

namespace Server

section Entries

variable {α β : Type}

theorem lookup_put (key : String) (a : α) (entries : List (String × α)) :
    (fun other => (put key a entries).lookup other) =
      Function.update (fun other => entries.lookup other) key (some a) := by
  funext other
  by_cases same : other = key
  · rw [same, lookup_put_self, Function.update_self]
  · rw [lookup_put_of_ne same, Function.update_of_ne same]

theorem lookup_drop_eq (key : String) (entries : List (String × α)) :
    (fun other => (drop key entries).lookup other) =
      Function.update (fun other => entries.lookup other) key none := by
  funext other
  by_cases same : other = key
  · rw [same, lookup_drop, Function.update_self]
  · rw [lookup_drop_of_ne same, Function.update_of_ne same]

theorem map_lookup_put (f : α → β) (key : String) (a : α) (entries : List (String × α)) :
    (fun other => ((put key a entries).lookup other).map f) =
      Function.update (fun other => (entries.lookup other).map f) key (some (f a)) := by
  have mapped := congrArg (Option.map f ∘ ·) (lookup_put key a entries)
  exact mapped.trans (Function.comp_update ..)

theorem map_lookup_drop (f : α → β) (key : String) (entries : List (String × α)) :
    (fun other => ((drop key entries).lookup other).map f) =
      Function.update (fun other => (entries.lookup other).map f) key none := by
  have mapped := congrArg (Option.map f ∘ ·) (lookup_drop_eq key entries)
  exact mapped.trans (Function.comp_update ..)

/-- With distinct keys, a key is looked up to the value of its entry. -/
theorem lookup_eq_some_iff {entries : List (String × α)} (nodup : (entries.map Prod.fst).Nodup)
    {key : String} {a : α} : entries.lookup key = some a ↔ (key, a) ∈ entries := by
  have apart : (key, a) ∉ drop key entries := by simp [drop]
  rw [(perm_drop key nodup).mem_iff, List.mem_append, or_iff_left apart]
  simp

/-- With distinct keys, there are as many keys of values of a kind as there are entries. -/
theorem encard_lookup {entries : List (String × α)} (nodup : (entries.map Prod.fst).Nodup) (p : α → Bool) :
    {key | ∃ a, entries.lookup key = some a ∧ p a = true}.encard = entries.countP fun e => p e.2 := by
  have keys : {key | ∃ a, entries.lookup key = some a ∧ p a = true} =
      {key | key ∈ (entries.filter fun e => p e.2).map Prod.fst} := by
    ext key
    simp [lookup_eq_some_iff nodup]
  have distinct : ((entries.filter fun e => p e.2).map Prod.fst).Nodup :=
    nodup.sublist (List.filter_sublist.map _)
  rw [keys, ← List.coe_toFinset, Set.encard_coe_eq_coe_finsetCard, List.toFinset_card_of_nodup distinct,
    List.length_map, List.countP_eq_length_filter]

end Entries

/-- What guards and connections hold. -/
def holding (s : Server) : Ledger where
  guards guard := s.guards.lookup guard
  served key := (s.connections.lookup key).map Connection.held

/-- What an action and its outcome tell of who holds what. -/
def note (s : Server) (l : Ledger) (action : Action) : Ledger :=
  match action with
  | .event _ (.activate guard name) =>
    match s.outcome action with
    | .held (.ok ()) => l.grant guard (some name)
    | _ => l
  | .event _ (.release guard) => l.grant guard none
  | .event _ (.connect key _ _) => l.greet key
  | .event _ (.receive key _) | .event _ (.endInput key) | .event _ (.close key) =>
    l.hear key (s.exchange key action) (s.outcome action).ended
  | _ => l

/-- What a run tells of who holds what. -/
def ledger (s : Server) (l : Ledger) : List Action → Ledger
  | [] => l
  | action :: rest => (s.act action).ledger (s.note l action) rest

variable {s : Server} {key guard name : String}

theorem served_of_known {c : Connection} (known : s.connections.lookup key = some c) :
    s.holding.served key = some c.held := congrArg (Option.map Connection.held) known

theorem holding_settle {c : Connection} {session : Session} {turns : List (String × Reply)}
    (known : s.connections.lookup key = some c)
    (held : session.ended = none → session.connection.held = latest turns c.held) :
    (s.settle key session).2.holding = s.holding.hear key turns session.ended := by
  rw [Ledger.hear, served_of_known known, settle]
  cases ended : session.ended with
  | none =>
    have kept := map_lookup_put Connection.held key session.connection s.connections
    rw [held ended] at kept
    exact congrArg (Ledger.mk _) kept
  | some ending => exact congrArg (Ledger.mk _) (map_lookup_drop Connection.held key s.connections)

theorem holding_serve {work : Session → Session} {turns : List (String × Reply)}
    (each : ∀ c, s.connections.lookup key = some c → (work (Session.start c s.registry)).ended = none →
      (work (Session.start c s.registry)).connection.held = latest turns c.held) :
    (s.serve key work).2.holding = s.holding.hear key turns (s.serve key work).1.ended := by
  rw [serve]
  cases known : s.connections.lookup key with
  | some c => exact holding_settle known (each c known)
  | none =>
    -- nobody is served under the key, before and after
    have unserved : s.holding.served key = none := congrArg (Option.map Connection.held) known
    rw [Ledger.hear, unserved, Option.map_none, ite_self, ← unserved, Function.update_eq_self]

theorem holding_endInput (s : Server) (key : String) :
    (s.endInput key).2.holding = s.holding.hear key [] (s.endInput key).1.ended := by
  refine holding_serve fun c _ going => ?_
  obtain ⟨ending, finished⟩ := (Session.start c s.registry).endInput_eq
  rw [finished] at going
  cases going

theorem holding_connect (s : Server) (key : String) (trusted : Bool) (peer : Option SocketAddress) :
    (s.connect key trusted peer).2.holding = s.holding.greet key := by
  -- whatever the connection before has held is overwritten
  have overwritten : (s.endInput key).2.holding.greet key = s.holding.greet key := by
    rw [holding_endInput, Ledger.greet, Ledger.greet, Ledger.hear, Function.update_idem]
  have taken := map_lookup_put Connection.held key (.make trusted peer) (s.endInput key).2.connections
  exact (congrArg (Ledger.mk _) taken).trans overwritten

theorem holding_activate {after : Registry} (active : s.registry.activate name = .ok after) :
    (s.activate guard name).2.holding = s.holding.grant guard (some name) := by
  rw [activate, active]
  exact congrArg (Ledger.mk · _) (lookup_put guard name s.guards)

theorem holding_release (s : Server) (guard : String) :
    (s.release guard).2.holding = s.holding.grant guard none := by
  rw [release]
  cases known : s.guards.lookup guard with
  | none =>
    have free : s.holding.guards guard = none := known
    have same := Function.update_eq_self guard s.holding.guards
    rw [free] at same
    exact congrArg (Ledger.mk · _) same.symm
  | some name => exact congrArg (Ledger.mk · _) (lookup_drop_eq guard s.guards)

theorem holding_act (s : Server) (action : Action) : (s.act action).holding = s.note s.holding action := by
  cases action with
  | update edit => rfl
  | event now event =>
    cases event with
    | activate guard name =>
      cases active : s.registry.activate name with
      | error e =>
        have refused : s.apply now (.activate guard name) = (.held (.error e), s) := by
          rw [apply, activate, active]
        rw [act, note, outcome, refused]
      | ok after =>
        have granted : s.outcome (.event now (.activate guard name)) = .held (.ok ()) := by
          rw [outcome, apply, activate, active]
        rw [note, granted]
        exact holding_activate active
    | release guard => exact s.holding_release guard
    | connect key trusted peer => exact s.holding_connect key trusted peer
    | receive key bytes =>
      refine holding_serve fun c known going => ?_
      rw [exchange_receive known]
      rw [Session.receive_eq] at going ⊢
      exact Session.takeAll_latest s.service now _ _ going
    | endInput key => exact s.holding_endInput key
    | close key =>
      refine holding_serve fun c _ going => ?_
      cases going
    | _ => rfl

/-- What is held is what the requests and their outcomes tell. -/
theorem holding_run (s : Server) (actions : List Action) :
    (s.run actions).holding = s.ledger s.holding actions := by
  induction actions generalizing s with
  | nil => rfl
  | cons action rest ih =>
    rw [run_cons, ih, ledger, holding_act]

end Server

/-- A registry and a ledger that tell the same of who is active. -/
structure Registry.Tallies (r : Registry) (l : Ledger) : Prop where
  active : ∀ name, r.isActive name = true ↔ l.Holds name
  count : ∀ name, (r.holds.count name : ℕ∞) = (l.guarding name).encard + (l.serving name).encard
  ascending : r.activeNames.Pairwise (· < ·)
  listed : ∀ name, name ∈ r.activeNames ↔ l.Holds name
  refused : ∀ name, r.requireInactive name = .error (.active name) ↔ l.Holds name
  passed : ∀ name, r.requireInactive name = .ok () ↔ ¬ l.Holds name

namespace Server

variable {s : Server}

theorem Accounted.count (h : s.Accounted) (name : String) : (s.registry.holds.count name : ℕ∞) =
    (s.holding.guarding name).encard + (s.holding.serving name).encard := by
  have guards : (s.holding.guarding name).encard = (s.guards.map Prod.snd).count name := by
    have same : s.holding.guarding name = {key | ∃ a, s.guards.lookup key = some a ∧ (a == name) = true} := by
      ext key
      simp [Ledger.guarding, holding]
    rw [same, encard_lookup h.guards, List.count, List.countP_map]
    rfl
  have served : (s.holding.serving name).encard = (s.connections.filterMap (·.2.held)).count name := by
    have same : s.holding.serving name =
        {key | ∃ c, s.connections.lookup key = some c ∧ (c.held == some name) = true} := by
      ext key
      simp [Ledger.serving, holding]
    rw [same, encard_lookup h.connections, List.count, List.countP_filterMap]
    congr 2
    funext e
    cases e.2.held <;> rfl
  rw [guards, served, Holds.count, h.holds.count_eq, holders, List.count_append, Nat.cast_add]

theorem Accounted.tallies (h : s.Accounted) : s.registry.Tallies s.holding := by
  have active : ∀ name, s.registry.isActive name = true ↔ s.holding.Holds name := by
    intro name
    calc
      _ ↔ name ∈ s.registry.holds.names := Registry.isActive_iff
      _ ↔ (s.registry.holds.count name : ℕ∞) ≠ 0 := by
        rw [Nat.cast_ne_zero, Holds.count, ← Nat.pos_iff_ne_zero, List.count_pos_iff]
      _ ↔ _ := by
        rw [h.count, Ledger.Holds, ← Set.encard_ne_zero, ← Set.encard_ne_zero, Ne, add_eq_zero, not_and_or]
  have listed : ∀ name, name ∈ s.registry.activeNames ↔ s.holding.Holds name := by
    intro name
    exact Holds.mem_held_iff.trans (Registry.isActive_iff.symm.trans (active name))
  refine ⟨active, h.count, Holds.ascending_held _, listed, fun name => ?_, fun name => ?_⟩
  · rw [← active, Registry.requireInactive]
    cases s.registry.isActive name <;> simp
  · rw [← active, Registry.requireInactive]
    cases s.registry.isActive name <;> simp

end Server

/-- A connection that has got bytes and has taken so many of the lines that they complete. -/
def Session.partway (service : Service) (now : String) (s : Session) (bytes : List UInt8) (n : Nat) : Session :=
  (s.got bytes).takeAll service now ((s.lines bytes).take n)

namespace Server

theorem Accounted.partway {s : Server} (h : s.Accounted) {key : String} {c : Connection}
    (known : s.connections.lookup key = some c) (now : String) (bytes : List UInt8) (n : Nat) :
    (s.settle key ((Session.start c s.registry).partway s.service now bytes n)).2.Accounted :=
  h.settle (((h.connection_holds known).got bytes).takeAll s.service now _)

theorem holding_partway {s : Server} {key : String} {c : Connection}
    (known : s.connections.lookup key = some c) (now : String) (bytes : List UInt8) (n : Nat) :
    let session := Session.start c s.registry
    let partway := session.partway s.service now bytes n
    let turns := (session.got bytes).dialogue s.service now ((session.lines bytes).take n)
    (s.settle key partway).2.holding = s.holding.hear key turns partway.ended :=
  holding_settle known (Session.takeAll_latest s.service now ((Session.start c s.registry).got bytes) _)

/-- Let anything be done to a server that has just been made, and let one of its connections then have
got bytes and taken some of the lines in them. A name is active just when a guard has it or it is the
name that a connection was last admitted under, and it is counted once for each of them. -/
theorem active_names_are_held (service : Service) (group : Group) (store : MemoryStore)
    (actions : List Action) :
    let start := make service (.make group store)
    let s := start.run actions
    let l := start.ledger .blank actions
    (s.holding = l ∧ s.registry.Tallies l) ∧
      ∀ key c, s.connections.lookup key = some c → ∀ now bytes n,
        let session := Session.start c s.registry
        let partway := session.partway s.service now bytes n
        let turns := (session.got bytes).dialogue s.service now ((session.lines bytes).take n)
        let s' := (s.settle key partway).2
        let l' := l.hear key turns partway.ended
        s'.holding = l' ∧ s'.registry.Tallies l' := by
  intro start s l
  have accounted : s.Accounted := (accounted_make service group store).run actions
  have held : s.holding = l := start.holding_run actions
  refine ⟨⟨held, held ▸ accounted.tallies⟩, ?_⟩
  intro key c known now bytes n session partway turns s' l'
  have held' : s'.holding = l' := by
    have heard := holding_partway known now bytes n
    rwa [held] at heard
  exact ⟨held', held' ▸ (accounted.partway known now bytes n).tallies⟩

/-- The sample's connection joins as a new member and is its only holder. -/
theorem joined_name_is_held :
    let c := Connection.make true none
    let partway := (Session.start c joining.registry).partway joining.service "" (Line.bytes joinLine) 1
    let s := (joining.settle "k" partway).2
    joining.connections.lookup "k" = some c ∧ s.registry.Tallies s.holding ∧
      s.holding.served "k" = some (some "n2") ∧ s.registry.activeNames = ["n2"] := by
  intro c partway s
  have known : joining.connections.lookup "k" = some c := rfl
  obtain ⟨-, midway⟩ := active_names_are_held ⟨false, ""⟩ Group.sample .empty [.event "" (.connect "k" true none)]
  obtain ⟨held, tallies⟩ := midway "k" c known "" (Line.bytes joinLine) 1
  exact ⟨known, held ▸ tallies, by decide +kernel, by decide +kernel⟩

end Server

end Roster

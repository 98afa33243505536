import Roster.Admission.Server
import Roster.Proofs.Admission.Answer

/-!
# Runs of a server

Operators act on a server and peers send it bytes, in any order. A run is told by its actions;
what it publishes is told action by action, and within one piece of bytes line by line.
-/

namespace Roster

namespace Session

/-- The groups that the next line publishes. -/
def publishes (service : Service) (s : Session) : Except AdmissionError String → List Group
  | .ok text => if s.ended.isSome then [] else service.publishes text s.connection s.registry
  | .error _ => []

/-- A session with lines taken in turn. -/
def takeAll (service : Service) (now : String) (s : Session)
    (lines : List (Except AdmissionError String)) : Session :=
  lines.foldl (take service now) s

/-- The groups that lines taken in turn publish. -/
def published (service : Service) (now : String) (s : Session) :
    List (Except AdmissionError String) → List Group
  | [] => []
  | line :: rest => s.publishes service line ++ (s.take service now line).published service now rest

/-- The lines that bytes complete. -/
def lines (s : Session) (bytes : List UInt8) : List (Except AdmissionError String) :=
  (s.connection.buffer.receive bytes).1

/-- A session that has got bytes but has taken none of their lines yet. -/
def got (s : Session) (bytes : List UInt8) : Session :=
  { s with connection := { s.connection with buffer := (s.connection.buffer.receive bytes).2 } }

theorem receive_eq (service : Service) (now : String) (bytes : List UInt8) (s : Session) :
    s.receive service now bytes = (s.got bytes).takeAll service now (s.lines bytes) := rfl

theorem take_follows (service : Service) (now : String) (s : Session)
    (line : Except AdmissionError String) :
    s.registry.Follows (s.publishes service line) (s.take service now line).registry := by
  rw [take.eq_def]
  by_cases ended : s.ended.isSome = true
  · cases line with
    | error e =>
      rw [if_pos ended]
      exact .refl _
    | ok text =>
      rw [publishes, if_pos ended, if_pos ended]
      exact .refl _
  · cases line with
    | error e =>
      rw [if_neg ended]
      exact .refl _
    | ok text =>
      rw [publishes, if_neg ended, if_neg ended]
      exact Service.answer_follows service now text s.connection s.registry

theorem takeAll_follows (service : Service) (now : String) (s : Session)
    (lines : List (Except AdmissionError String)) :
    s.registry.Follows (s.published service now lines) (s.takeAll service now lines).registry := by
  induction lines generalizing s with
  | nil => exact .refl _
  | cons line rest ih => exact (take_follows service now s line).trans (ih _)

theorem released_current (s : Session) : s.released.current = s.registry.current := by
  rw [released]
  split
  · exact Registry.letGo_current _ _
  · rfl

theorem released_store (s : Session) : s.released.store = s.registry.store := by
  rw [released]
  split
  · exact Registry.letGo_store _ _
  · rfl

end Session

/-- What is done to a server: an event, or an update with an edit of the operator's own. -/
inductive Action where
  | event (now : String) (event : Event)
  | update (edit : GroupEdit)

namespace Server

def act (s : Server) : Action → Server
  | .event now event => (s.apply now event).2
  | .update edit => (s.publish (·.update edit.run)).2

/-- The groups that an outcome tells to be published. -/
def told : Outcome → List Group
  | .published result => Registry.published result
  | _ => []

/-- The groups that an action publishes. -/
def publishes (s : Server) : Action → List Group
  | .event now (.receive key bytes) =>
    match s.connections.lookup key with
    | some c =>
      let session := Session.start c s.registry
      (session.got bytes).published s.service now (session.lines bytes)
    | none => []
  | .event now event => told (s.apply now event).1
  | .update edit => told (s.publish (·.update edit.run)).1

def run (s : Server) (actions : List Action) : Server := actions.foldl act s

/-- The groups that a run publishes, in turn. -/
def published (s : Server) : List Action → List Group
  | [] => []
  | action :: rest => s.publishes action ++ (s.act action).published rest

/-- A server that has taken some of the lines that bytes under a key complete; the rest of them is
still to come. -/
def Midway (s : Server) (now key : String) (taken rest : List (Except AdmissionError String))
    (log : List Group) (session : Session) : Prop :=
  ∃ c bytes, s.connections.lookup key = some c ∧
    (Session.start c s.registry).lines bytes = taken ++ rest ∧
    log = ((Session.start c s.registry).got bytes).published s.service now taken ∧
    session = ((Session.start c s.registry).got bytes).takeAll s.service now taken

variable {s : Server}

theorem publish_follows {update : Registry → UpdateResult Group × Registry}
    (follows : s.registry.Follows (Registry.published (update s.registry).1) (update s.registry).2) :
    s.registry.Follows (told (s.publish update).1) (s.publish update).2.registry := follows

/-- What a connection's work publishes is published, whether or not the work ends it. -/
theorem serve_follows {key : String} {work : Session → Session} {log : List Group}
    (none : s.connections.lookup key = none → log = [])
    (some : ∀ c, s.connections.lookup key = some c →
      s.registry.Follows log (work (Session.start c s.registry)).registry) :
    s.registry.Follows log (s.serve key work).2.registry := by
  rw [serve]
  cases known : s.connections.lookup key with
  | none =>
    rw [none known]
    exact .refl _
  | some c => exact (some c known).then_same (Session.released_current _) (congrArg _ (Session.released_store _))

/-- Work that only finishes a session publishes nothing. -/
theorem serve_finish_follows {key : String} {work : Session → Session}
    (same : ∀ session, (work session).registry = session.registry) :
    s.registry.Follows [] (s.serve key work).2.registry := by
  refine serve_follows (fun _ => rfl) fun c _ => ?_
  rw [same]
  exact .refl _

theorem endInput_follows (key : String) : s.registry.Follows [] (s.endInput key).2.registry := by
  refine serve_finish_follows fun session => ?_
  rw [Session.endInput]
  split <;> rfl

theorem told_serve (key : String) (work : Session → Session) : told (s.serve key work).1 = [] := by
  rw [serve]
  cases s.connections.lookup key <;> rfl

theorem activate_follows (guard name : String) :
    s.registry.Follows (told (s.activate guard name).1) (s.activate guard name).2.registry := by
  rw [activate]
  cases active : s.registry.activate name with
  | error e => exact .refl _
  | ok after =>
    obtain ⟨-, rfl⟩ := Registry.activate_eq_ok_iff.mp active
    exact .of_same (Registry.letGo_current _ _) (congrArg _ (Registry.letGo_store _ _))

theorem release_follows (guard : String) :
    s.registry.Follows (told (s.release guard).1) (s.release guard).2.registry := by
  rw [release]
  cases s.guards.lookup guard with
  | none => exact .refl _
  | some name => exact .of_same rfl rfl

theorem apply_follows (now : String) (event : Event) :
    s.registry.Follows (s.publishes (.event now event)) (s.apply now event).2.registry := by
  cases event with
  | add node => exact publish_follows (Registry.update_follows (.add node) _)
  | remove name => exact publish_follows (Registry.update_follows (.remove name) _)
  | delete name => exact publish_follows (Registry.updateInactive_follows name (.delete name) _)
  | move name host port =>
    exact publish_follows (Registry.updateInactive_follows name (.move name host port) _)
  | convert format => exact publish_follows (Registry.update_follows (.convert format) _)
  | batch nodes names => exact publish_follows (Registry.update_follows (.batch nodes names) _)
  | activate guard name => exact activate_follows guard name
  | release guard => exact release_follows guard
  | connect key trusted peer => exact endInput_follows key
  | receive key bytes =>
    -- the only event that can publish more than once: a group for every line that is a join
    refine serve_follows ?_ ?_
    · intro unknown
      simp only [publishes, unknown]
    · intro c known
      simp only [publishes, known]
      rw [Session.receive_eq]
      exact Session.takeAll_follows s.service now ((Session.start c s.registry).got bytes) _
  | endInput key =>
    have quiet : s.publishes (.event now (.endInput key)) = [] := told_serve key _
    rw [quiet]
    exact endInput_follows key
  | close key =>
    have quiet : s.publishes (.event now (.close key)) = [] := told_serve key _
    rw [quiet]
    exact serve_finish_follows fun _ => rfl

theorem act_follows (action : Action) : s.registry.Follows (s.publishes action) (s.act action).registry := by
  cases action with
  | event now event => exact apply_follows now event
  | update edit => exact publish_follows (Registry.update_follows edit _)

theorem run_follows (s : Server) (actions : List Action) :
    s.registry.Follows (s.published actions) (s.run actions).registry := by
  induction actions generalizing s with
  | nil => exact .refl _
  | cons action rest ih => exact (act_follows action).trans (ih _)

theorem Midway.follows {now key : String} {taken rest : List (Except AdmissionError String)}
    {log : List Group} {session : Session} (h : s.Midway now key taken rest log session) :
    s.registry.Follows log session.registry := by
  obtain ⟨c, bytes, -, -, rfl, rfl⟩ := h
  exact Session.takeAll_follows s.service now ((Session.start c s.registry).got bytes) taken

end Server

end Roster

import Roster.Group.Edit
import Roster.Registry.Holds
import Roster.Registry.Store

/-! # The published group

Readers see the current group. An edit works on a copy, which is stored before it is published,
so nobody sees a change that a restart would lose. Members that are held by somebody are active:
they can be marked removed, but neither moved nor deleted. -/

namespace Roster

inductive UpdateError where
  | edit (cause : EditError)
  | store (cause : StoreError)
  deriving DecidableEq, Repr

def UpdateError.code : UpdateError → String
  | .edit cause => cause.code
  | .store _ => "store_failed"

def UpdateError.message : UpdateError → String
  | .edit cause => cause.message
  | .store cause => s!"failed to persist membership: {cause.message}"

structure Registry where
  current : Group
  holds : Holds
  store : MemoryStore
  deriving DecidableEq

abbrev UpdateResult := Except (Fault UpdateError)

namespace Registry

def make (group : Group) (store : MemoryStore) : Registry := ⟨group, Holds.empty, store⟩

/-- The group must be writable at the format it declares. -/
def recheck (g : Group) : EditResult Group :=
  match g.checkFormat g.format with
  | .ok () => .ok g
  | .error e => .error (.refused (.unwritable e))

/-- Edits a copy, stores it and publishes it. -/
def update (edit : Group → EditResult Group) (r : Registry) : UpdateResult Group × Registry :=
  match edit r.current >>= recheck with
  | .error fault => (.error (fault.map .edit), r)
  | .ok next =>
    match r.store.save next with
    | (.error e, store) => (.error (.refused (.store e)), { r with store := store })
    | (.ok (), store) => (.ok next, { r with current := next, store := store })

def isActive (r : Registry) (name : String) : Bool := r.holds.contains name

def activeNames (r : Registry) : List String := r.holds.held

def requireInactive (r : Registry) (name : String) : Except EditError Unit :=
  if r.isActive name then .error (.active name) else .ok ()

/-- Edits the group unless a name is active. -/
def updateInactive (name : String) (edit : Group → EditResult Group) (r : Registry) :
    UpdateResult Group × Registry :=
  match r.requireInactive name with
  | .ok () => r.update edit
  | .error e => (.error (.refused (.edit e)), r)

def add (n : Node) (r : Registry) : UpdateResult Group × Registry := r.update (·.add n)

def remove (name : String) (r : Registry) : UpdateResult Group × Registry := r.update (·.remove name)

def move (name host : String) (port : UInt16) (r : Registry) : UpdateResult Group × Registry :=
  r.updateInactive name (·.move name host port)

def delete (name : String) (r : Registry) : UpdateResult Group × Registry :=
  r.updateInactive name (·.delete name)

/-- Declares the group at another format. -/
def convert (format : FormatVersion) (r : Registry) : UpdateResult Group × Registry :=
  r.update fun g => refusing ((g.convert format).mapError .unwritable)

/-- Adds nodes and then removes names, all in one update. -/
def batch (nodes : List Node) (names : List String) (r : Registry) : UpdateResult Group × Registry :=
  r.update fun g => do (← g.addAll nodes).removeAll names

/-- Takes a hold on a current member. -/
def activate (name : String) (r : Registry) : Except UpdateError Registry :=
  match r.current.find? name with
  | some n =>
    if n.removed then .error (.edit (.notMember name r.current.name))
    else .ok { r with holds := r.holds.acquire name }
  | none => .error (.edit (.notMember name r.current.name))

/-- Ends a hold. -/
def deactivate (name : String) (r : Registry) : Registry := { r with holds := r.holds.release name }

/-- Ends a hold if there is one. -/
def letGo (held : Option String) (r : Registry) : Registry :=
  match held with
  | some name => r.deactivate name
  | none => r

/-- Admits a joining node: a new name is added, and a current member of the same type is accepted
back, at a new address if it is not active. -/
def register (n : Node) (r : Registry) : UpdateResult Group × Registry :=
  match r.current.find? n.name with
  | none => r.add n
  | some existing =>
    if existing.removed then (.error (.refused (.edit (.notMember n.name r.current.name))), r)
    else if existing.kind ≠ n.kind then
      (.error (.refused (.edit (.typeMismatch n.name existing.kind n.kind))), r)
    else if existing.host ≠ n.host ∨ existing.port ≠ n.port then r.move n.name n.host n.port
    else (.ok r.current, r)

end Registry

end Roster

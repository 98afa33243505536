import Roster.Fault
import Roster.Group.Basic

/-! # Edits of a group

Every edit advances the change version, and adding a node advances the id sequence too. A
removed node's record stays, so neither its name nor its id is given out again until the
record is deleted. -/

namespace Roster

inductive EditError where
  | duplicate (name group : String)
  | notMember (name group : String)
  | active (name : String)
  | typeMismatch (name : String) (existing requested : NodeType)
  | unwritable (cause : StreamError)
  deriving DecidableEq, Repr

def EditError.code : EditError → String
  | .duplicate .. => "duplicate_member"
  | .notMember .. => "member_not_found"
  | .active .. => "member_active"
  | .typeMismatch .. => "type_mismatch"
  | .unwritable .. => "invariant_violation"

def EditError.message : EditError → String
  | .duplicate name group => s!"node {name} is already a member of group {group}"
  | .notMember name group => s!"node {name} is not a member of group {group}"
  | .active name => s!"node {name} is still active; deactivate or remove it first"
  | .typeMismatch name existing requested =>
    s!"node {name} is a {existing.label} member and cannot rejoin as {requested.label}"
  | .unwritable cause => cause.message

abbrev EditResult := Except (Fault EditError)

namespace Group

def member (g : Group) (name : String) : Except EditError Node :=
  match g.find? name with
  | some n => .ok n
  | none => .error (.notMember name g.name)

/-- Adds a node under the next id. The names of removed nodes stay taken. -/
def add (g : Group) (n : Node) : EditResult Group := do
  if (g.find? n.name).isSome then throw (.refused (.duplicate n.name g.name))
  if ¬ n.kind.oldestFormat ≤ g.format then
    throw (.refused (.unwritable (.secondaryUnsupported g.format (g.records.secondaryCount + 1))))
  let change ← Counter.next g.change
  let id ← Counter.next g.sequence
  let node := { n with id := id, change := change, removed := false }
  return { g with
    change := change, sequence := id, records := g.records.insert (node.restrict g.format) }

/-- Refuses names that no current member has. -/
def requireMember (g : Group) (name : String) : EditResult Unit :=
  match g.find? name with
  | some n => if n.removed then .error (.refused (.notMember name g.name)) else .ok ()
  | none => .error (.refused (.notMember name g.name))

/-- Marks a member removed. The next change version is needed before the name is looked up. -/
def remove (g : Group) (name : String) : EditResult Group := do
  let change ← Counter.next g.change
  g.requireMember name
  return { g with change := change, records := g.records.markRemoved name change }

/-- Drops a record of any state. -/
def delete (g : Group) (name : String) : EditResult Group := do
  let _ ← refusing (g.member name)
  let change ← Counter.next g.change
  return { g with change := change, records := g.records.erase name }

/-- Moves a member. The next change version is needed before the name is looked up. -/
def move (g : Group) (name host : String) (port : UInt16) : EditResult Group := do
  let change ← Counter.next g.change
  g.requireMember name
  return { g with change := change, records := g.records.move name host port change }

/-- Adds nodes in turn. -/
def addAll (g : Group) (nodes : List Node) : EditResult Group := nodes.foldlM Group.add g

/-- Removes names in turn. -/
def removeAll (g : Group) (names : List String) : EditResult Group := names.foldlM Group.remove g

end Group

end Roster

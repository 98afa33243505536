import Roster.Group.Records
import Roster.Uuid

/-! # Replication groups

A group is a value: an edit gives a new group and leaves the old one as it was. -/

namespace Roster

/-- The change version counts edits; the id sequence is the last node id handed out. -/
structure Group where
  name : String
  uuid : Uuid
  format : FormatVersion
  change : UInt32
  sequence : UInt32
  records : Records
  deriving DecidableEq

namespace Group

def empty (name : String) (uuid : Uuid) (format : FormatVersion) : Group :=
  ⟨name, uuid, format, 0, 0, Records.empty⟩

def find? (g : Group) (name : String) : Option Node := g.records.find? name

/-- The first record, in order of names, that has an id. -/
def findId? (g : Group) (id : UInt32) : Option Node :=
  g.records.toList.find? (fun n => n.id == id)

def nodes (g : Group) : List Node := g.records.toList

/-- Records of any state. -/
def size (g : Group) : Nat := g.records.size

/-- Current members. -/
def members (g : Group) : List Node := g.nodes.filter (fun n => !n.removed)

def membersOfType (g : Group) (t : NodeType) : List Node := g.members.filter (fun n => n.kind == t)

def dataMembers (g : Group) : List Node := g.members.filter (fun n => n.kind.holdsData)

/-- A stream is one header token and one token per record. -/
def tokenCount (g : Group) : Nat := 1 + g.size

/-- Every record, removed ones included, can be written at the format. -/
def checkFormat (g : Group) (format : FormatVersion) : Except StreamError Unit :=
  if format.carriesSecondary || g.records.secondaryCount == 0 then .ok ()
  else .error (.secondaryUnsupported format g.records.secondaryCount)

/-- The same group declared at another format; what that format cannot carry is cleared. -/
def convert (g : Group) (format : FormatVersion) : Except StreamError Group :=
  (g.checkFormat format).map fun _ =>
    { g with format := format, records := g.records.restrict format }

end Group

end Roster

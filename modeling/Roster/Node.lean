import Roster.Text.Lowercase
import Roster.Token.Error

/-! # Members of a replication group -/

namespace Roster

/-- Electable nodes vote and may become master, monitors hold no data, secondary nodes hold data
but never vote. -/
inductive NodeType where
  | electable
  | monitor
  | secondary
  deriving DecidableEq, Repr

namespace NodeType

def text : NodeType → String
  | electable => "electable"
  | monitor => "monitor"
  | secondary => "secondary"

def label : NodeType → String
  | electable => "ELECTABLE"
  | monitor => "MONITOR"
  | secondary => "SECONDARY"

def holdsData (t : NodeType) : Bool := t != monitor

/-- Oldest format that can name the type. -/
def oldestFormat : NodeType → FormatVersion
  | electable | monitor => .oldest
  | secondary => .v3

def code : NodeType → UInt8
  | electable => 0
  | monitor => 1
  | secondary => 2

def ofCode? (code : UInt8) : Option NodeType :=
  [electable, monitor, secondary].find? (fun t => t.code == code)

/-- The type that a code stands for in a record of the given format. -/
def ofCode (format : FormatVersion) (code : UInt8) : Except StreamError NodeType :=
  match ofCode? code with
  | none => .error (.unknownNodeType code format)
  | some t =>
    if t.oldestFormat ≤ format then .ok t else .error (.secondaryUnsupported format 1)

/-- Reads a type in any mixture of cases; a failure gives back the text in lower case. -/
def parse (s : String) : Except String NodeType :=
  let lower := lowercase s
  match [electable, monitor, secondary].find? (fun t => t.text == lower) with
  | some t => .ok t
  | none => .error lower

def parseFailure (lower : String) : String := s!"unknown node type: {lower}"

theorem ofCode?_code (t : NodeType) : ofCode? t.code = some t := by
  cases t <;> decide

end NodeType

/-- One node's record. The group assigns the id and the change version when the node is added. -/
structure Node where
  name : String
  id : UInt32
  kind : NodeType
  host : String
  port : UInt16
  software : Option String
  removed : Bool
  change : UInt32
  deriving DecidableEq, Repr

namespace Node

/-- A node that is about to join. -/
def joining (name : String) (kind : NodeType) (host : String) (port : UInt16)
    (software : Option String) : Node :=
  ⟨name, 0, kind, host, port, software, false, 0⟩

/-- The address that peers dial; a host with colons stands in brackets. -/
def address (n : Node) : String :=
  if n.host.toList.contains ':' then s!"[{n.host}]:{n.port}" else s!"{n.host}:{n.port}"

def isSecondary (n : Node) : Bool := n.kind == .secondary

/-- The record as a format can carry it. -/
def restrict (n : Node) (format : FormatVersion) : Node :=
  if format.carriesSoftware then n else { n with software := none }

end Node

end Roster

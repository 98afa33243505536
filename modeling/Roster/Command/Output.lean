import Roster.Command.Basic
import Roster.Group.Codec
import Roster.Group.Summary
import Roster.Text.Blank

/-! # What commands print

A command either prints a text or fails for a reason. Nothing here reaches a running server, so
asking one for its status always fails. -/

namespace Roster

inductive CommandError where
  | unknownFormat (cause : StreamError)
  | undecodable (cause : StreamError)
  | inconvertible (cause : StreamError)
  | unwritable (cause : StreamError)
  | incompatible (i : Incompatibility)
  | unreachable (address : String)
  deriving DecidableEq, Repr

def CommandError.message : CommandError → String
  | .unknownFormat cause => s!"invalid format version: {cause.message}"
  | .undecodable cause => s!"failed to decode membership stream: {cause.message}"
  | .inconvertible cause => s!"group cannot be written at the target version: {cause.message}"
  | .unwritable cause => cause.message
  | .incompatible i => i.message
  | .unreachable address => s!"failed to reach {address}"

namespace Listing

/-- One line of the table of nodes; the last column is as wide as its text. -/
def row (id name kind address removed software : String) : String :=
  "  ".intercalate [padRight 4 id, padRight 20 name, padRight 10 kind, padRight 28 address,
    padRight 8 removed, software]

def nodeRow (n : Node) : String :=
  row (toString n.id) n.name n.kind.label n.address (if n.removed then "yes" else "no")
    (n.software.getD "-")

def text (g : Group) : String :=
  let lines :=
    [s!"Group:    {g.name} ({g.uuid.text})", s!"Format:   {g.format.text}",
      s!"Change:   {g.change}", s!"Tokens:   {g.tokenCount}", "",
      row "id" "name" "type" "address" "removed" "software"] ++ g.nodes.map nodeRow
  "\n".intercalate lines

def json (g : Group) : Json :=
  .object [
    ("summary", (Summary.ofGroup g).toJson),
    ("nodes", .array (g.nodes.map Node.toJson))]

end Listing

namespace Command

def formatOf (n : UInt16) : Except CommandError FormatVersion :=
  (FormatVersion.ofCode n).mapError .unknownFormat

def read (stream : String) (target : Option UInt16) : Except CommandError Group := do
  match target with
  | some n =>
    let format ← formatOf n
    (Group.ofStreamAt (trim stream) format).mapError .undecodable
  | none => (Group.ofStream (trim stream)).mapError .undecodable

/-- The printed text; blanks at its end are dropped. -/
def output (c : Command) : Except CommandError String := do
  match c with
  | .versions json => return trimEnd (if json then VersionReport.json.pretty else VersionReport.text)
  | .decode stream target json =>
    let g ← read stream target
    return trimEnd (if json then (Listing.json g).sorted.pretty else Listing.text g)
  | .check stream format =>
    let v ← formatOf format
    (Gate.check v stream).mapError .incompatible
    return s!"compatible: stream {stream} can join a group at format {format}"
  | .convert stream target =>
    let g ← read stream none
    let converted ← (g.convert (← formatOf target)).mapError .inconvertible
    converted.stream.mapError .unwritable
  | .status address _ _ => throw (.unreachable address)

end Command

end Roster

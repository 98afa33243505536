import Roster.Format.Gate
import Roster.Group.Basic
import Roster.Json

/-! # What operators are shown

Groups and nodes as JSON, a group's member counts, and the table of versions this library
works with. -/

namespace Roster

def FormatVersion.toJson (v : FormatVersion) : Json := .nat v.code.toNat

def Node.toJson (n : Node) : Json :=
  .object [
    ("name", .text n.name),
    ("id", .nat n.id.toNat),
    ("node_type", .text n.kind.text),
    ("host", .text n.host),
    ("port", .nat n.port.toNat),
    ("software_version", Json.orNull .text n.software),
    ("removed", .bool n.removed),
    ("change_version", .nat n.change.toNat)]

def Group.toJson (g : Group) : Json :=
  .object [
    ("name", .text g.name),
    ("uuid", .text g.uuid.text),
    ("format_version", g.format.toJson),
    ("change_version", .nat g.change.toNat),
    ("node_id_sequence", .nat g.sequence.toNat),
    ("nodes", .object (g.nodes.map fun n => (n.name, n.toJson)))]

def Incompatibility.toJson (i : Incompatibility) : Json :=
  .object [
    ("stream_version", .nat i.stream.toNat),
    ("format_version", i.format.toJson),
    ("reason", .text i.reason.text),
    ("reason_text", .text i.reason.text),
    ("required_stream", .nat i.requiredStream.toNat),
    ("peer_max_format", .text i.peerNewestText),
    ("message", .text i.message)]

/-- A group by its numbers: current members of each type, and removed records. -/
structure Summary where
  name : String
  uuid : Uuid
  format : FormatVersion
  change : UInt32
  electable : Nat
  monitor : Nat
  secondary : Nat
  removed : Nat
  tokens : Nat
  deriving DecidableEq, Repr

namespace Summary

def ofGroup (g : Group) : Summary :=
  ⟨g.name, g.uuid, g.format, g.change, (g.membersOfType .electable).length,
    (g.membersOfType .monitor).length, (g.membersOfType .secondary).length,
    g.nodes.countP Node.removed, g.tokenCount⟩

def toJson (s : Summary) : Json :=
  .object [
    ("name", .text s.name),
    ("uuid", .text s.uuid.text),
    ("format_version", s.format.toJson),
    ("change_version", .nat s.change.toNat),
    ("electable", .nat s.electable),
    ("monitor", .nat s.monitor),
    ("secondary", .nat s.secondary),
    ("removed", .nat s.removed),
    ("token_count", .nat s.tokens)]

end Summary

/-- Fills a text up to a width with blanks on its right. -/
def padRight (width : Nat) (s : String) : String := s.pushn ' ' (width - s.length)

namespace VersionReport

def yesNo (b : Bool) : String := if b then "yes" else "no"

def formatJson (v : FormatVersion) : Json :=
  .object [
    ("format_version", v.toJson),
    ("min_stream_version", .nat v.oldestStream.toNat),
    ("secondary_nodes", .bool v.carriesSecondary),
    ("software_versions", .bool v.carriesSoftware)]

def streamJson (r : StreamRange) : Json :=
  .object [
    ("stream_version", .nat r.stream.toNat),
    ("min_group_format", r.oldest.toJson),
    ("max_group_format", r.newest.toJson)]

def json : Json :=
  .object [
    ("min_format_version", FormatVersion.oldest.toJson),
    ("max_format_version", FormatVersion.newest.toJson),
    ("min_stream_version", .nat StreamVersion.oldest.toNat),
    ("max_stream_version", .nat StreamVersion.newest.toNat),
    ("formats", .array (FormatVersion.all.map formatJson)),
    ("streams", .array (StreamVersion.table.map streamJson))]

def formatLine (v : FormatVersion) : String :=
  "  ".intercalate [padRight 6 v.text, padRight 10 (toString v.oldestStream),
    padRight 9 (yesNo v.carriesSecondary), yesNo v.carriesSoftware]

def streamLine (r : StreamRange) : String :=
  "  ".intercalate [padRight 6 (toString r.stream), padRight 10 r.oldest.text, r.newest.text]

def text : String :=
  let lines :=
    [s!"Group format versions: {FormatVersion.oldest.text}..={FormatVersion.newest.text}",
      s!"Stream protocol versions: {StreamVersion.oldest}..={StreamVersion.newest}", "",
      "format  min-stream  secondary  sw-version"]
      ++ FormatVersion.all.map formatLine
      ++ ["", "stream  min-format  max-format"]
      ++ StreamVersion.table.map streamLine
  String.join (lines.map (· ++ "\n"))

end VersionReport

end Roster

import Roster.Admission.Error
import Roster.Group.Summary

/-! # Replies -/

namespace Roster

/-- What a group's host tells about itself; the times are when it started and when it answers. -/
structure StatusReport where
  startedAt : String
  generatedAt : String
  group : Summary
  active : List String
  deriving DecidableEq, Repr

def StatusReport.toJson (r : StatusReport) : Json :=
  .object [
    ("started_at", .text r.startedAt),
    ("generated_at", .text r.generatedAt),
    ("versions", VersionReport.json),
    ("group", r.group.toJson),
    ("active", .array (r.active.map .text))]

inductive Reply where
  | group (format : FormatVersion) (stream : String)
  | incompatible (verdict : Incompatibility)
  | error (code message : String)
  | status (report : StatusReport)
  deriving DecidableEq, Repr

namespace Reply

def untrusted : Reply := .error "untrusted" "peer is not trusted"

def badRequest (e : AdmissionError) : Reply := .error "bad_request" e.message

def line : Reply → String
  | .group format stream => s!"GROUP {format.text} {stream}"
  | .incompatible verdict => s!"INCOMPATIBLE {verdict.stream} {verdict.format.text} {verdict.reason.text}"
  | .error code message => s!"ERROR {code} {message}"
  | .status report => "STATUS " ++ report.toJson.compact

end Reply

end Roster

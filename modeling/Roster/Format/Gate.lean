import Roster.Format.Version

/-! # Which stream protocol versions may read which format

Every known stream version reads a range of formats and every format names the oldest
stream version that reads it. A joining node is admitted only inside both tables. -/

namespace Roster

structure StreamRange where
  stream : UInt32
  oldest : FormatVersion
  newest : FormatVersion
  deriving DecidableEq, Repr

namespace StreamVersion

def oldest : UInt32 := 4

def newest : UInt32 := 7

def table : List StreamRange :=
  [⟨4, .v1, .v1⟩, ⟨5, .v1, .v2⟩, ⟨6, .v1, .v2⟩, ⟨7, .v1, .v3⟩]

def range? (stream : UInt32) : Option StreamRange := table.find? (fun r => r.stream == stream)

def newestFormat? (stream : UInt32) : Option FormatVersion := (range? stream).map (·.newest)

def oldestFormat? (stream : UInt32) : Option FormatVersion := (range? stream).map (·.oldest)

end StreamVersion

/-- Oldest stream version able to read a format. -/
def FormatVersion.oldestStream : FormatVersion → UInt32
  | v1 => 4
  | v2 => 5
  | v3 => 7

inductive GateReason where
  | unknownStream
  | streamTooOld
  | formatTooNew
  deriving DecidableEq, Repr

def GateReason.text : GateReason → String
  | unknownStream => "unknown_stream_version"
  | streamTooOld => "stream_too_old"
  | formatTooNew => "format_too_new"

/-- A refused pair of versions; no newest format is known for an unknown stream. -/
structure Incompatibility where
  stream : UInt32
  format : FormatVersion
  reason : GateReason
  peerNewest : Option FormatVersion
  deriving DecidableEq, Repr

namespace Incompatibility

def requiredStream (i : Incompatibility) : UInt32 := i.format.oldestStream

def peerNewestText (i : Incompatibility) : String :=
  match i.peerNewest with
  | some v => v.text
  | none => "unknown"

def message (i : Incompatibility) : String :=
  s!"incompatible versions: peer stream protocol {i.stream} cannot interoperate with group format {i.format.text} ({i.reason.text}; requires stream >= {i.requiredStream}, peer reads formats up to {i.peerNewestText})"

end Incompatibility

namespace Gate

/-- The first rule that a peer's stream version breaks against a group's format. -/
def check (format : FormatVersion) (stream : UInt32) : Except Incompatibility Unit :=
  match StreamVersion.newestFormat? stream with
  | none => .error ⟨stream, format, .unknownStream, none⟩
  | some newest =>
    if stream < format.oldestStream then .error ⟨stream, format, .streamTooOld, some newest⟩
    else if newest < format then .error ⟨stream, format, .formatTooNew, some newest⟩
    else .ok ()

end Gate

end Roster

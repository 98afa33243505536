import Roster.Group.Basic
import Roster.Token.Reader
import Roster.Token.Stream
import Roster.Token.Writer

/-! # Membership streams

A group's stream is a header token, which names the format, the group and the number of its
records, and then one token per record in ascending order of names. Every accepted stream is
written back unchanged. -/

namespace Roster

namespace Node

def write (format : FormatVersion) (n : Node) : Writer Unit := do
  Writer.text n.name
  Writer.u32 n.id
  Writer.u8 n.kind.code
  Writer.text n.host
  Writer.u16 n.port
  Writer.bool n.removed
  Writer.u32 n.change
  if format.carriesSoftware then Writer.optionalText n.software

def read (format : FormatVersion) : Reader Node := do
  let name ← Reader.text "node name"
  let id ← Reader.u32 "node id"
  let kind ← MonadExcept.ofExcept (NodeType.ofCode format (← Reader.u8 "node type"))
  let host ← Reader.text "host"
  let port ← Reader.u16 "port"
  let removed ← Reader.bool "removed"
  let change ← Reader.u32 "node change version"
  let software ← if format.carriesSoftware then Reader.optionalText "software version" else pure none
  Reader.finish
  return ⟨name, id, kind, host, port, software, removed, change⟩

/-- A node alone, the form in which it announces itself when it joins. -/
def toToken (n : Node) (format : FormatVersion) : Except StreamError String := do
  if ¬ n.kind.oldestFormat ≤ format then throw (.secondaryUnsupported format 1)
  return TokenStream.encode [← (n.write format).record]

def ofToken (token : String) (format : FormatVersion) : Except StreamError Node := do
  match ← TokenStream.decode token with
  | [bytes] => (Node.read format).token 0 bytes
  | tokens => throw (.corrupt (.notOneToken tokens.length))

end Node

/-- What the first token of a stream says. -/
structure Header where
  format : FormatVersion
  name : String
  uuid : Uuid
  change : UInt32
  sequence : UInt32
  count : UInt32
  deriving DecidableEq, Repr

namespace Header

def write (h : Header) : Writer Unit := do
  Writer.u16 h.format.code
  Writer.text h.name
  Writer.bytes h.uuid.bytes
  Writer.u32 h.change
  Writer.u32 h.sequence
  Writer.u32 h.count

def readFormat : Reader FormatVersion := do
  MonadExcept.ofExcept (FormatVersion.ofCode (← Reader.u16 "format version"))

def read : Reader Header := do
  let format ← readFormat
  let name ← Reader.text "group name"
  let uuid ← Reader.bytes 16 "group uuid"
  let change ← Reader.u32 "change version"
  let sequence ← Reader.u32 "node id sequence"
  let count ← Reader.u32 "node count"
  Reader.finish
  return ⟨format, name, ⟨uuid.val, uuid.property⟩, change, sequence, count⟩

end Header

namespace Group

def header (g : Group) (format : FormatVersion) : Header :=
  ⟨format, g.name, g.uuid, g.change, g.sequence, UInt32.ofNat g.size⟩

/-- The group's tokens at a format, before they are written in hex. -/
def tokens (g : Group) (format : FormatVersion) : Except StreamError (List (List UInt8)) := do
  g.checkFormat format
  if g.size ≥ UInt32.size then throw (.corrupt .tooManyNodes)
  let header ← (g.header format).write.record
  let records ← g.nodes.mapM fun n => (n.write format).record
  return header :: records

def streamAt (g : Group) (format : FormatVersion) : Except StreamError String :=
  (g.tokens format).map TokenStream.encode

/-- The group's stream at its own format. -/
def stream (g : Group) : Except StreamError String := g.streamAt g.format

/-- Reads the token behind the records already read. -/
def readRecord (h : Header) (index : Nat) (token : List UInt8) (done : Records.Builder) :
    Except StreamError Records.Builder := do
  let n ← (Node.read h.format).token index token
  if h.sequence < n.id then throw (.malformedToken index (.idAboveSequence n.id h.sequence))
  match done.push n with
  | .ok more => return more
  | .error previous => throw (.malformedToken index (.outOfOrder n.name previous))

/-- Reads the record tokens, of which the first has the given index. -/
def readRecords (h : Header) :
    Nat → List (List UInt8) → Records.Builder → Except StreamError Records.Builder
  | _, [], done => .ok done
  | index, token :: rest, done =>
    match readRecord h index token done with
    | .ok more => readRecords h (index + 1) rest more
    | .error e => .error e

def ofTokens : List (List UInt8) → Except StreamError Group
  | [] => .error (.corrupt .missingHeader)
  | first :: rest => do
    let h ← Header.read.token 0 first
    if rest.length ≠ h.count.toNat then throw (.tokenCount h.count rest.length)
    let done ← readRecords h 1 rest Records.Builder.empty
    return ⟨h.name, h.uuid, h.format, h.change, h.sequence, done.records⟩

/-- Reads a stream at the format its header names. -/
def ofStream (stream : String) : Except StreamError Group := do
  ofTokens (← TokenStream.decode stream)

/-- Reads a stream and declares the group at another format. -/
def ofStreamAt (stream : String) (target : FormatVersion) : Except StreamError Group := do
  let g ← ofStream stream
  if g.format = target then return g
  g.convert target

/-- The format a stream's header names; only the first token is looked at. -/
def streamFormat (stream : String) : Except StreamError FormatVersion := do
  let first := String.ofList ((pieces TokenStream.isBar stream.toList).headD [])
  match ← TokenStream.decode first with
  | token :: _ => Header.readFormat.token 0 token
  | [] => throw (.corrupt .missingHeader)

end Group

end Roster

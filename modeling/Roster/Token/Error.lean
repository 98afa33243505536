import Roster.Format.Version
import Roster.Token.Hex

/-! # What can be wrong with a membership stream -/

namespace Roster

/-- A fault inside one token. -/
inductive TokenFault where
  | notHex (byte : UInt8) (offset : Nat)
  | empty
  | oddLength (digits : Nat)
  | truncated (field : String) (offset : Nat)
  | notBoolean (field : String) (value : UInt8)
  | notUtf8 (field : String)
  | trailing (count : Nat)
  | idAboveSequence (id sequence : UInt32)
  | outOfOrder (name previous : String)
  deriving DecidableEq, Repr

def TokenFault.message : TokenFault → String
  | .notHex byte offset =>
    let digits := Hex.text [byte]
    s!"byte 0x{digits} at offset {offset} is not lowercase hex"
  | .empty => "empty token"
  | .oddLength digits => s!"odd hex length {digits}"
  | .truncated field offset => s!"truncated reading {field} at offset {offset}"
  | .notBoolean field value => s!"{field} is not a boolean: {value}"
  | .notUtf8 field => s!"{field} is not valid UTF-8"
  | .trailing count => s!"{count} trailing byte(s)"
  | .idAboveSequence id sequence => s!"node id {id} exceeds the group's id sequence {sequence}"
  | .outOfOrder name previous => s!"node tokens out of order: {name} after {previous}"

/-- A fault of the stream as a whole. -/
inductive Corruption where
  | emptyStream
  | missingHeader
  | notOneToken (count : Nat)
  | textTooLong (bytes : Nat)
  | tooManyNodes
  deriving DecidableEq, Repr

def Corruption.message : Corruption → String
  | .emptyStream => "empty stream"
  | .missingHeader => "missing group header"
  | .notOneToken count => s!"expected one node token, found {count}"
  | .textTooLong bytes => s!"string of {bytes} bytes exceeds field limit"
  | .tooManyNodes => "too many nodes"

inductive StreamError where
  | unsupportedVersion (version : UInt16)
  | tokenCount (declared : UInt32) (actual : Nat)
  | malformedToken (index : Nat) (fault : TokenFault)
  | corrupt (cause : Corruption)
  | secondaryUnsupported (format : FormatVersion) (count : Nat)
  | unknownNodeType (code : UInt8) (format : FormatVersion)
  deriving DecidableEq, Repr

/-- A short name for operators' tools. -/
def StreamError.code : StreamError → String
  | .unsupportedVersion .. => "unsupported_version"
  | .tokenCount .. => "token_count"
  | .malformedToken .. => "malformed_token"
  | .corrupt .. => "corrupt"
  | .secondaryUnsupported .. => "secondary_not_supported"
  | .unknownNodeType .. => "unknown_node_type"

def StreamError.message : StreamError → String
  | .unsupportedVersion version =>
    let oldest := FormatVersion.oldest.text
    let newest := FormatVersion.newest.text
    s!"format version {version} is outside the supported range [{oldest}, {newest}]"
  | .tokenCount declared actual =>
    s!"corrupt stream: header declares {declared} nodes but {actual} node tokens follow"
  | .malformedToken index fault => s!"corrupt stream: token {index}: {fault.message}"
  | .corrupt cause => s!"corrupt stream: {cause.message}"
  | .secondaryUnsupported format count =>
    s!"format version {format.text} predates secondary nodes but the group has {count} secondary node(s)"
  | .unknownNodeType code format =>
    s!"node type code {code} is not defined at format version {format.text}"

/-- The format version that a number on the wire stands for. -/
def FormatVersion.ofCode (n : UInt16) : Except StreamError FormatVersion :=
  match FormatVersion.ofCode? n with
  | some v => .ok v
  | none => .error (.unsupportedVersion n)

end Roster

import Roster.Channel.Error
import Roster.Format.Gate
import Roster.Text.Decimal
import Roster.Text.Quoted
import Roster.Token.Error

/-! # Why an exchange with a group fails -/

namespace Roster

/-- A line that breaks the rules of the exchange. -/
inductive ProtocolFault where
  | notUtf8
  | endedMidLine
  | closedBeforeReply
  | emptyRequest
  | unknownRequest (word : String)
  | missingField (field : String)
  | badStreamVersion (fault : NumberFault)
  | badTokenFormat (fault : NumberFault)
  | trailingArguments
  | unknownStream (stream : UInt32)
  | notJoin
  | badFormatVersion (fault : NumberFault)
  | notListed (group node : String)
  | malformedRefusal (text : String)
  | unexpectedReply (word : String)
  | badStatusBody
  deriving DecidableEq, Repr

def ProtocolFault.message : ProtocolFault → String
  | .notUtf8 => "line is not valid UTF-8"
  | .endedMidLine => "stream ended mid-line"
  | .closedBeforeReply => "connection closed before reply"
  | .emptyRequest => "empty request"
  | .unknownRequest word => s!"unknown request {word}"
  | .missingField field => s!"JOIN needs a {field}"
  | .badStreamVersion fault => s!"bad stream version: {fault.message}"
  | .badTokenFormat fault => s!"bad token format: {fault.message}"
  | .trailingArguments => "trailing JOIN arguments"
  | .unknownStream stream => s!"stream version {stream} is unknown to this build"
  | .notJoin => "not a JOIN request"
  | .badFormatVersion fault => s!"bad format version: {fault.message}"
  | .notListed group node => s!"group {group} does not list {node}"
  | .malformedRefusal text =>
    let quoted := Quoted.text text
    s!"malformed INCOMPATIBLE reply: {quoted}"
  | .unexpectedReply word => s!"unexpected reply {word}"
  | .badStatusBody => "bad status body"

/-- `incompatible` is this side's own verdict on a peer, `refused` the peer's verdict on this side. -/
inductive AdmissionError where
  | channel (cause : ChannelError)
  | lineTooLong
  | protocol (fault : ProtocolFault)
  | untrusted (peer : String)
  | incompatible (verdict : Incompatibility)
  | refused (stream : UInt32) (format : UInt16) (reason : String)
  | remote (code message : String)
  | stream (cause : StreamError)
  deriving DecidableEq, Repr

def AdmissionError.code : AdmissionError → String
  | .channel cause => "channel_" ++ cause.code
  | .lineTooLong => "line_too_long"
  | .protocol _ => "protocol"
  | .untrusted _ => "untrusted"
  | .incompatible _ => "incompatible"
  | .refused .. => "refused"
  | .remote .. => "remote"
  | .stream cause => cause.code

def AdmissionError.message : AdmissionError → String
  | .channel cause => cause.message
  | .lineTooLong => "line exceeds the 1 MiB limit"
  | .protocol fault => s!"protocol error: {fault.message}"
  | .untrusted peer => s!"peer {peer} is not trusted; group service requires trusted peers"
  | .incompatible verdict => verdict.message
  | .refused announced format reason =>
    s!"remote refused join: stream {announced} vs group format {format} ({reason})"
  | .remote code text => s!"remote error {code}: {text}"
  | .stream cause => cause.message

end Roster

import Roster.Admission.Line
import Roster.Admission.Request
import Roster.Json.Parser

/-! # The joining side

A node writes its request and believes nothing but a well-formed reply: a group that lists the
node, a refusal with both versions and a reason, or an error. Everything else ends as a protocol
error. -/

namespace Roster

namespace Reply

/-- Cuts a text at its first space. -/
def cut (s : String) : String × String :=
  let cs := s.toList
  (String.ofList (cs.takeWhile (· != ' ')), String.ofList ((cs.dropWhile (· != ' ')).drop 1))

def remoteError (rest : String) : AdmissionError :=
  let (code, message) := cut rest
  .remote code message

/-- The fields of a refusal; its reason must not be blank. -/
def refusal (rest : String) : AdmissionError :=
  let (stream, more) := cut rest
  let (format, reason) := cut more
  match Decimal.parseUInt32 stream, Decimal.parseUInt16 format with
  | .ok stream, .ok format =>
    if (trim reason).isEmpty then .protocol (.malformedRefusal rest) else .refused stream format reason
  | _, _ => .protocol (.malformedRefusal rest)

/-- The group in a reply's fields, which must list the node. -/
def groupListing (name rest : String) : Except AdmissionError Group := do
  let (word, stream) := cut rest
  let code ← (Decimal.parseUInt16 word).mapError fun fault => .protocol (.badFormatVersion fault)
  let format ← (FormatVersion.ofCode code).mapError .stream
  let group ← (Group.ofStreamAt stream format).mapError .stream
  if (group.find? name).isSome then return group
  else throw (.protocol (.notListed group.name name))

/-- Reads the reply to a join under a name. -/
def readGroup (name reply : String) : Except AdmissionError Group :=
  let (kind, rest) := cut reply
  if kind = "GROUP" then groupListing name rest
  else if kind = "INCOMPATIBLE" then .error (refusal rest)
  else if kind = "ERROR" then .error (remoteError rest)
  else .error (.protocol (.unexpectedReply kind))

/-- Reads the reply to a status request. -/
def readStatus (reply : String) : Except AdmissionError Json :=
  let (kind, rest) := cut reply
  if kind = "STATUS" then
    match Json.parse? rest with
    | some body => .ok body
    | none => .error (.protocol .badStatusBody)
  else if kind = "ERROR" then .error (remoteError rest)
  else .error (.protocol (.unexpectedReply kind))

end Reply

namespace Joiner

/-- The first line that comes back. -/
def expectReply (w : Wire) : Except AdmissionError String × Wire :=
  match LineBuffer.empty.readLine w with
  | (.ok (some reply), _, after) => (.ok reply, after)
  | (.ok none, _, after) => (.error (.protocol .closedBeforeReply), after)
  | (.error e, _, after) => (.error e, after)

/-- Writes a request and reads the reply with `read`. -/
def ask {α : Type} (request : Request) (read : String → Except AdmissionError α) (w : Wire) :
    Except AdmissionError α × Wire :=
  match request.line with
  | .error e => (.error (.stream e), w)
  | .ok line =>
    match w.writeLine line with
    | (.error e, after) => (.error e, after)
    | (.ok (), after) =>
      let (reply, after) := expectReply after
      (reply >>= read, after)

/-- Sends a join that is ready and reads the group. -/
def send (request : Request) (w : Wire) : Except AdmissionError Group × Wire :=
  match request with
  | .join _ _ node => ask request (Reply.readGroup node.name) w
  | .status => (.error (.protocol .notJoin), w)

/-- Announces a node and reads the group that lists it. -/
def join (stream : UInt32) (node : Node) (w : Wire) : Except AdmissionError Group × Wire :=
  match Request.announce stream node with
  | .ok request => send request w
  | .error e => (.error e, w)

def status (w : Wire) : Except AdmissionError Json × Wire := ask .status Reply.readStatus w

end Joiner

end Roster

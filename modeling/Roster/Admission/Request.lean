import Roster.Admission.Error
import Roster.Group.Codec
import Roster.Text.Blank

/-! # Requests

A node asks to join by naming its stream version and its own record, written at a format it
names too. Words are separated by any blanks when a request is read, and by single spaces when
it is written. -/

namespace Roster

inductive Request where
  | join (stream : UInt32) (format : FormatVersion) (node : Node)
  | status
  deriving DecidableEq, Repr

namespace Request

/-- The request that announces a node at the newest format its stream version reads. -/
def announce (stream : UInt32) (node : Node) : Except AdmissionError Request :=
  match StreamVersion.newestFormat? stream with
  | some format => .ok (.join stream format node)
  | none => .error (.protocol (.unknownStream stream))

/-- Takes the next word, which is named in case it is missing. -/
def field (what : String) : List String → Except AdmissionError (String × List String)
  | word :: rest => .ok (word, rest)
  | [] => .error (.protocol (.missingField what))

def parseStream (word : String) : Except AdmissionError UInt32 :=
  (Decimal.parseUInt32 word).mapError fun fault => .protocol (.badStreamVersion fault)

def parseFormat (word : String) : Except AdmissionError FormatVersion := do
  let code ← (Decimal.parseUInt16 word).mapError fun fault => .protocol (.badTokenFormat fault)
  (FormatVersion.ofCode code).mapError .stream

/-- Reads what follows the first word of a join. -/
def parseJoin (words : List String) : Except AdmissionError Request := do
  let (word, words) ← field "stream version" words
  let stream ← parseStream word
  let (word, words) ← field "token format" words
  let format ← parseFormat word
  let (word, words) ← field "node record" words
  let node ← (Node.ofToken word format).mapError .stream
  if words.isEmpty then return .join stream format node
  else throw (.protocol .trailingArguments)

def parse (line : String) : Except AdmissionError Request :=
  match words line with
  | [] => .error (.protocol .emptyRequest)
  | word :: rest =>
    if word = "JOIN" then parseJoin rest
    else if word = "STATUS" then .ok .status
    else .error (.protocol (.unknownRequest word))

def line : Request → Except StreamError String
  | .join stream format node =>
    (node.toToken format).map fun token => s!"JOIN {stream} {format.text} {token}"
  | .status => .ok "STATUS"

end Request

end Roster

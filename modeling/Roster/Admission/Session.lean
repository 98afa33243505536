import Roster.Admission.Line
import Roster.Admission.Reply
import Roster.Admission.Request
import Roster.Net.Ip
import Roster.Registry.Basic

/-! # Serving one connection

Every request line is answered by one line. A joiner passes the version gate before the group is
touched, and the member that joined last on a connection stays active until the connection ends. -/

namespace Roster

/-- What all connections of a service share. -/
structure Service where
  requireTrusted : Bool
  startedAt : String
  deriving DecidableEq, Repr

/-- How a connection ended: the peer was done, or a fault. -/
abbrev Ending := Except (Fault AdmissionError) Unit

structure Connection where
  trusted : Bool
  peer : Option SocketAddress
  buffer : LineBuffer
  held : Option String

namespace Connection

def make (trusted : Bool) (peer : Option SocketAddress) : Connection := ⟨trusted, peer, .empty, none⟩

def peerText (c : Connection) : String :=
  match c.peer with
  | some address => address.text
  | none => "unknown"

end Connection

/-- What one line brings about. -/
structure Turn where
  reply : Option Reply
  ended : Option Ending
  held : Option String
  registry : Registry

namespace Turn

def proceed (reply : Reply) (held : Option String) (r : Registry) : Turn := ⟨some reply, none, held, r⟩

def failWith (reply : Option Reply) (fault : Fault AdmissionError) (held : Option String)
    (r : Registry) : Turn := ⟨reply, some (.error fault), held, r⟩

def refusal (e : UpdateError) (held : Option String) (r : Registry) : Turn :=
  proceed (.error e.code e.message) held r

/-- Sends the group; one that cannot be written ends the connection. -/
def sendGroup (g : Group) (held : Option String) (r : Registry) : Turn :=
  match g.stream with
  | .ok stream => proceed (.group g.format stream) held r
  | .error e => failWith none (.refused (.stream e)) held r

/-- Registers a compatible joiner and makes it the connection's active member. The new hold is
taken before the old one is given up. -/
def accept (n : Node) (held : Option String) (r : Registry) : Turn :=
  match r.register n with
  | (.error .exhausted, after) => failWith none .exhausted held after
  | (.error (.refused e), after) => refusal e held after
  | (.ok group, after) =>
    if held = some n.name then sendGroup group held after
    else
      match after.activate n.name with
      | .ok active => sendGroup group (some n.name) (active.letGo held)
      | .error e => refusal e held after

def join (stream : UInt32) (n : Node) (held : Option String) (r : Registry) : Turn :=
  match Gate.check r.current.format stream with
  | .ok () => accept n held r
  | .error verdict => failWith (some (.incompatible verdict)) (.refused (.incompatible verdict)) held r

end Turn

namespace Service

def report (s : Service) (now : String) (r : Registry) : StatusReport :=
  ⟨s.startedAt, now, Summary.ofGroup r.current, r.activeNames⟩

/-- Answers one line. An untrusted peer is told so before its line is looked at. -/
def answer (s : Service) (now line : String) (c : Connection) (r : Registry) : Turn :=
  if s.requireTrusted && !c.trusted then
    .failWith (some .untrusted) (.refused (.untrusted c.peerText)) c.held r
  else
    match Request.parse line with
    | .error e => .proceed (.badRequest e) c.held r
    | .ok (.join stream _ n) => .join stream n c.held r
    | .ok .status => .proceed (.status (s.report now r)) c.held r

end Service

/-- A connection at work. Its replies are held last first. -/
structure Session where
  connection : Connection
  registry : Registry
  replies : List Reply
  ended : Option Ending

namespace Session

def start (c : Connection) (r : Registry) : Session := ⟨c, r, [], none⟩

def finish (s : Session) (ending : Ending) : Session := { s with ended := some ending }

def apply (s : Session) (t : Turn) : Session where
  connection := { s.connection with held := t.held }
  registry := t.registry
  replies := t.reply.toList ++ s.replies
  ended := t.ended

/-- Takes the next line, or the reason why there is none. Nothing is taken behind the end. -/
def take (service : Service) (now : String) (s : Session) (line : Except AdmissionError String) : Session :=
  if s.ended.isSome then s
  else
    match line with
    | .error e => s.finish (.error (.refused e))
    | .ok text => s.apply (service.answer now text s.connection s.registry)

/-- Takes bytes from the peer. -/
def receive (service : Service) (now : String) (bytes : List UInt8) (s : Session) : Session :=
  let (lines, buffer) := s.connection.buffer.receive bytes
  lines.foldl (take service now) { s with connection := { s.connection with buffer := buffer } }

/-- Takes the end of the peer's bytes. -/
def endInput (s : Session) : Session :=
  if s.connection.buffer.isEmpty then s.finish (.ok ())
  else s.finish (.error (.refused (.protocol .endedMidLine)))

/-- The registry without what an ended connection held. -/
def released (s : Session) : Registry :=
  if s.ended.isSome then s.registry.letGo s.connection.held else s.registry

end Session

end Roster

import Roster.Admission.Joiner
import Roster.Admission.Server

/-! # Helpers

A helper is a node that may admit another one. It is out of reach, or sends what it sends, or is
a server at work. -/

namespace Roster

/-- The bytes that an event makes a server send. -/
def Outcome.bytes : Outcome → List UInt8
  | .served replies _ => replies.flatMap fun r => Line.bytes r.line
  | _ => []

/-- Serves one join on a connection of its own. The joiner reads one reply and leaves. -/
def Server.join (now key : String) (trusted : Bool) (stream : UInt32) (node : Node) (s : Server) :
    Except AdmissionError Group × Server :=
  let (_, opened) := s.apply now (.connect key trusted none)
  match Request.announce stream node >>= fun request => request.line.mapError .stream with
  | .error e => (.error e, (opened.apply now (.endInput key)).2)
  | .ok line =>
    let (outcome, answered) := opened.apply now (.receive key (Line.bytes line))
    let (reply, _) := Joiner.expectReply (.ofArrivals [.bytes outcome.bytes])
    (reply >>= Reply.readGroup node.name, (answered.apply now (.endInput key)).2)

/-- All connections to a scripted helper share one wire. -/
inductive Helper where
  | unreachable
  | scripted (wire : Wire) (dialed : Bool)
  | live (server : Server) (trusted : Bool)

namespace Helper

/-- Dials a helper and asks to join. -/
def join (now address : String) (stream : UInt32) (node : Node) : Helper → Except AdmissionError Group × Helper
  | .unreachable => (.error (.channel (.connect address "connection refused")), .unreachable)
  | .scripted wire _ =>
    let (result, after) := Joiner.join stream node wire
    (result, .scripted after true)
  | .live server trusted =>
    let (result, after) := server.join now address trusted stream node
    (result, .live after trusted)

end Helper

/-- Helpers by address; nobody answers at any other. -/
abbrev Helpers := List (String × Helper)

namespace Helpers

/-- Asks the helper at an address. -/
def ask (now : String) (stream : UInt32) (node : Node) (address : String) :
    Helpers → Except AdmissionError Group × Helpers
  | [] => (.error (.channel (.connect address "connection refused")), [])
  | (a, h) :: rest =>
    if a = address then
      let (result, after) := h.join now address stream node
      (result, (a, after) :: rest)
    else
      let (result, after) := ask now stream node address rest
      (result, (a, h) :: after)

end Helpers

end Roster

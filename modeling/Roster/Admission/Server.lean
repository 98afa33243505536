import Roster.Admission.Session

/-! # A group's host

A server publishes one group, serves any number of connections and lets operators edit the group
and hold members under keys of their own. Events come one at a time. -/

namespace Roster

structure Server where
  service : Service
  registry : Registry
  guards : List (String × String)
  connections : List (String × Connection)

/-- What happens to a server: edits, guards of operators, and news of a connection by its key. -/
inductive Event where
  | add (node : Node)
  | remove (name : String)
  | delete (name : String)
  | move (name host : String) (port : UInt16)
  | convert (format : FormatVersion)
  | batch (nodes : List Node) (names : List String)
  | activate (guard name : String)
  | release (guard : String)
  | connect (key : String) (trusted : Bool) (peer : Option SocketAddress)
  | receive (key : String) (bytes : List UInt8)
  | endInput (key : String)
  | close (key : String)

/-- What an event brings about. The replies are those of the event's own connection. -/
inductive Outcome where
  | published (result : UpdateResult Group)
  | held (result : Except UpdateError Unit)
  | released (found : Bool)
  | served (replies : List Reply) (ended : Option Ending)

namespace Server

def make (service : Service) (registry : Registry) : Server := ⟨service, registry, [], []⟩

/-- Puts a value under a key in place of any other. -/
def put {α : Type} (key : String) (value : α) (entries : List (String × α)) : List (String × α) :=
  (key, value) :: entries.filter (fun e => e.1 != key)

def drop {α : Type} (key : String) (entries : List (String × α)) : List (String × α) :=
  entries.filter (fun e => e.1 != key)

def publish (update : Registry → UpdateResult Group × Registry) (s : Server) : Outcome × Server :=
  let (result, registry) := update s.registry
  (.published result, { s with registry := registry })

/-- Holds a member under a key; a hold that the key had is given up afterwards. -/
def activate (guard name : String) (s : Server) : Outcome × Server :=
  match s.registry.activate name with
  | .error e => (.held (.error e), s)
  | .ok active =>
    (.held (.ok ()), { s with
      registry := active.letGo (s.guards.lookup guard), guards := put guard name s.guards })

def release (guard : String) (s : Server) : Outcome × Server :=
  match s.guards.lookup guard with
  | none => (.released false, s)
  | some name =>
    (.released true, { s with registry := s.registry.deactivate name, guards := drop guard s.guards })

/-- Keeps a connection that goes on and forgets one that has ended. -/
def settle (key : String) (session : Session) (s : Server) : Outcome × Server :=
  let connections := match session.ended with
    | none => put key session.connection s.connections
    | some _ => drop key s.connections
  (.served session.replies.reverse session.ended,
    { s with registry := session.released, connections := connections })

/-- Lets a connection work; news of one that has ended, or never was, changes nothing. -/
def serve (key : String) (work : Session → Session) (s : Server) : Outcome × Server :=
  match s.connections.lookup key with
  | none => (.served [] none, s)
  | some c => s.settle key (work (Session.start c s.registry))

def endInput (key : String) (s : Server) : Outcome × Server := s.serve key Session.endInput

/-- Takes a new connection. One that had its key has lost its peer. -/
def connect (key : String) (trusted : Bool) (peer : Option SocketAddress) (s : Server) : Outcome × Server :=
  let (_, before) := s.endInput key
  (.served [] none,
    { before with connections := put key (.make trusted peer) before.connections })

def apply (now : String) (event : Event) (s : Server) : Outcome × Server :=
  match event with
  | .add node => s.publish (·.add node)
  | .remove name => s.publish (·.remove name)
  | .delete name => s.publish (·.delete name)
  | .move name host port => s.publish (·.move name host port)
  | .convert format => s.publish (·.convert format)
  | .batch nodes names => s.publish (·.batch nodes names)
  | .activate guard name => s.activate guard name
  | .release guard => s.release guard
  | .connect key trusted peer => s.connect key trusted peer
  | .receive key bytes => s.serve key (Session.receive s.service now bytes)
  | .endInput key => s.endInput key
  | .close key => s.serve key (Session.finish · (.error (.refused (.channel .closed))))

end Server

end Roster

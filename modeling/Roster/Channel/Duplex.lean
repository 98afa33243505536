import Roster.Channel.Error
import Roster.Channel.Trust

/-! # Two channels joined by a pipe

Each direction holds a bounded number of unread bytes. Operations of one kind on one end take
turns in the order in which they asked, and a long write asks anew for each of its parts. Closing
an end ends every operation that waits there; its bytes on the way can still be read. -/

namespace Roster

/-- One direction. No more bytes come once the writer is done, and none can be written once the
reader is gone. -/
structure Pipe where
  capacity : Nat
  unread : List UInt8
  writerDone : Bool
  readerGone : Bool
  deriving DecidableEq, Repr

namespace Pipe

def empty (capacity : Nat) : Pipe := ⟨capacity, [], false, false⟩

/-- Up to `n` bytes, none at the end of the stream; nothing if there is something to wait for. -/
def take? (n : Nat) (p : Pipe) : Option (List UInt8 × Pipe) :=
  if n = 0 ∨ p.unread ≠ [] ∨ p.writerDone then
    some (p.unread.take n, { p with unread := p.unread.drop n })
  else none

/-- How many bytes were taken; nothing if there is no room. -/
def put? (bs : List UInt8) (p : Pipe) : Except TransportFault (Option (Nat × Pipe)) :=
  let n := min bs.length (p.capacity - p.unread.length)
  if p.readerGone then .error .brokenPipe
  else if n = 0 ∧ bs ≠ [] then .ok none
  else .ok (some (n, { p with unread := p.unread ++ bs.take n }))

end Pipe

inductive Side where
  | left
  | right
  deriving DecidableEq, Repr

/-- One end. Operations stand in line by their numbers, the first of each line at work. -/
structure Endpoint where
  isOpen : Bool
  readers : List Nat
  writers : List Nat
  attributes : PeerAttributes
  deriving DecidableEq, Repr

def Endpoint.make (attributes : PeerAttributes) : Endpoint := ⟨true, [], [], attributes⟩

/-- Steps back from both lines. -/
def Endpoint.leave (number : Nat) (e : Endpoint) : Endpoint :=
  { e with readers := e.readers.erase number, writers := e.writers.erase number }

/-- Stands in line, at its end if it did not yet. -/
def standIn (number : Nat) (line : List Nat) : List Nat :=
  if line.contains number then line else line ++ [number]

/-- What an operation still has to do. Closing goes through the last three in turn. -/
inductive Work where
  | read (n : Nat)
  | write (bs : List UInt8)
  | writeAll (bs : List UInt8)
  | flush
  | close
  | shutDown
  | dropWriter
  | dropReader
  deriving DecidableEq, Repr

inductive WorkResult where
  | bytes (bs : List UInt8)
  | taken (n : Nat)
  | flushed (reached : Bool)
  | done
  | failed (e : ChannelError)
  deriving DecidableEq, Repr

inductive Progress where
  | finished (result : WorkResult)
  | waiting (rest : Work)
  deriving DecidableEq, Repr

structure Duplex where
  left : Endpoint
  right : Endpoint
  rightward : Pipe
  leftward : Pipe
  deriving DecidableEq, Repr

namespace Duplex

def make (capacity : Nat) (attributes : PeerAttributes) : Duplex :=
  ⟨.make attributes, .make .plaintext, .empty capacity, .empty capacity⟩

def endpoint (s : Side) (d : Duplex) : Endpoint :=
  match s with
  | .left => d.left
  | .right => d.right

def setEndpoint (s : Side) (e : Endpoint) (d : Duplex) : Duplex :=
  match s with
  | .left => { d with left := e }
  | .right => { d with right := e }

def outgoing (s : Side) (d : Duplex) : Pipe :=
  match s with
  | .left => d.rightward
  | .right => d.leftward

def setOutgoing (s : Side) (p : Pipe) (d : Duplex) : Duplex :=
  match s with
  | .left => { d with rightward := p }
  | .right => { d with leftward := p }

def incoming (s : Side) (d : Duplex) : Pipe :=
  match s with
  | .left => d.leftward
  | .right => d.rightward

def setIncoming (s : Side) (p : Pipe) (d : Duplex) : Duplex :=
  match s with
  | .left => { d with leftward := p }
  | .right => { d with rightward := p }

def leave (s : Side) (number : Nat) (d : Duplex) : Duplex :=
  d.setEndpoint s ((d.endpoint s).leave number)

/-- Stands in the readers' line; true if it is this operation's turn. -/
def readersTurn (s : Side) (number : Nat) (d : Duplex) : Bool × Duplex :=
  let e := d.endpoint s
  let line := standIn number e.readers
  (line.head? == some number, d.setEndpoint s { e with readers := line })

/-- Stands in the writers' line; true if it is this operation's turn. -/
def writersTurn (s : Side) (number : Nat) (d : Duplex) : Bool × Duplex :=
  let e := d.endpoint s
  let line := standIn number e.writers
  (line.head? == some number, d.setEndpoint s { e with writers := line })

def read (s : Side) (number n : Nat) (d : Duplex) : Progress × Duplex :=
  if (d.endpoint s).isOpen then
    match d.readersTurn s number with
    | (false, d) => (.waiting (.read n), d)
    | (true, d) =>
      match (d.incoming s).take? n with
      | some (bs, p) => (.finished (.bytes bs), (d.setIncoming s p).leave s number)
      | none => (.waiting (.read n), d)
  else (.finished (.failed .closed), d.leave s number)

def write (s : Side) (number : Nat) (bs : List UInt8) (d : Duplex) : Progress × Duplex :=
  if (d.endpoint s).isOpen then
    match d.writersTurn s number with
    | (false, d) => (.waiting (.write bs), d)
    | (true, d) =>
      match (d.outgoing s).put? bs with
      | .ok (some (n, p)) => (.finished (.taken n), (d.setOutgoing s p).leave s number)
      | .ok none => (.waiting (.write bs), d)
      | .error fault => (.finished (.failed (.transport fault)), d.leave s number)
  else (.finished (.failed .closed), d.leave s number)

def writeAll (s : Side) (number : Nat) (bs : List UInt8) (d : Duplex) : Progress × Duplex :=
  match bs with
  | [] => (.finished .done, d)
  | b :: rest =>
    match d.write s number (b :: rest) with
    | (.finished (.taken (n + 1)), d) => writeAll s number (rest.drop n) d
    | (.finished (.taken 0), d) => (.finished (.failed (.transport .writeZero)), d)
    | (.finished result, d) => (.finished result, d)
    | (.waiting _, d) => (.waiting (.writeAll (b :: rest)), d)
termination_by bs.length
decreasing_by simp only [List.length_drop, List.length_cons]; omega

def flush (s : Side) (number : Nat) (d : Duplex) : Progress × Duplex :=
  if (d.endpoint s).isOpen then
    match d.writersTurn s number with
    | (false, d) => (.waiting .flush, d)
    | (true, d) => (.finished (.flushed true), d.leave s number)
  else (.finished (.flushed false), d.leave s number)

/-- Gives up the reading half, and with it the end: what the peer writes from now on is lost. -/
def dropReader (s : Side) (number : Nat) (d : Duplex) : Progress × Duplex :=
  match d.readersTurn s number with
  | (false, d) => (.waiting .dropReader, d)
  | (true, d) =>
    (.finished .done, (d.setIncoming s { d.incoming s with readerGone := true }).leave s number)

def dropWriter (s : Side) (number : Nat) (d : Duplex) : Progress × Duplex :=
  match d.writersTurn s number with
  | (false, d) => (.waiting .dropWriter, d)
  | (true, d) => (d.leave s number).dropReader s number

/-- Tells the peer that no more bytes come. -/
def shutDown (s : Side) (number : Nat) (d : Duplex) : Progress × Duplex :=
  match d.writersTurn s number with
  | (false, d) => (.waiting .shutDown, d)
  | (true, d) =>
    ((d.setOutgoing s { d.outgoing s with writerDone := true }).leave s number).dropWriter s number

/-- Closing twice changes nothing. -/
def close (s : Side) (number : Nat) (d : Duplex) : Progress × Duplex :=
  if (d.endpoint s).isOpen then
    (d.setEndpoint s { d.endpoint s with isOpen := false }).shutDown s number
  else (.finished .done, d)

/-- Goes as far as possible with an operation. -/
def attempt (s : Side) (number : Nat) (d : Duplex) : Work → Progress × Duplex
  | .read n => d.read s number n
  | .write bs => d.write s number bs
  | .writeAll bs => d.writeAll s number bs
  | .flush => d.flush s number
  | .close => d.close s number
  | .shutDown => d.shutDown s number
  | .dropWriter => d.dropWriter s number
  | .dropReader => d.dropReader s number

end Duplex

/-- An operation that could not finish. -/
structure Pending where
  number : Nat
  side : Side
  work : Work
  deriving DecidableEq, Repr

/-- A duplex with the operations that wait on it, the oldest first. -/
structure Desk where
  duplex : Duplex
  waiting : List Pending
  deriving DecidableEq, Repr

namespace Desk

def make (capacity : Nat) (attributes : PeerAttributes) : Desk := ⟨.make capacity attributes, []⟩

/-- Tries every operation once, in order, and gives the results of those that finished. -/
def pass (d : Duplex) : List Pending → List (Nat × WorkResult) × Desk
  | [] => ([], ⟨d, []⟩)
  | p :: rest =>
    match d.attempt p.side p.number p.work with
    | (.finished result, d) =>
      let (results, desk) := pass d rest
      ((p.number, result) :: results, desk)
    | (.waiting work, d) =>
      let (results, desk) := pass d rest
      (results, { desk with waiting := { p with work := work } :: desk.waiting })

/-- Tries again until nothing finishes; `room` bounds the rounds. -/
def settleWithin : Nat → Desk → List (Nat × WorkResult) × Desk
  | 0, desk => ([], desk)
  | room + 1, desk =>
    match pass desk.duplex desk.waiting with
    | ([], after) => ([], after)
    | (results, after) =>
      let (more, last) := settleWithin room after
      (results ++ more, last)

/-- Each round but the last one finishes an operation. -/
def settle (desk : Desk) : List (Nat × WorkResult) × Desk :=
  settleWithin (desk.waiting.length + 1) desk

/-- Starts an operation and then tries those that wait, this one among them if it could not
finish at once. -/
def start (number : Nat) (s : Side) (work : Work) (desk : Desk) :
    Option WorkResult × List (Nat × WorkResult) × Desk :=
  match desk.duplex.attempt s number work with
  | (.finished result, d) => (some result, settle { desk with duplex := d })
  | (.waiting rest, d) => (none, settle ⟨d, desk.waiting ++ [⟨number, s, rest⟩]⟩)

end Desk

end Roster

import Roster.Admission.Error
import Roster.Channel.Wire
import Roster.Text.Utf8

/-! # Lines on a byte stream

Requests and replies are lines that end with a newline; a carriage return before it belongs
to the ending. Bytes arrive in pieces of any size, and those of an unfinished line are kept
until the rest has come. -/

namespace Roster

namespace Line

def newline : UInt8 := 10

def carriageReturn : UInt8 := 13

/-- So many bytes without a newline are no line. -/
def limit : Nat := 1048576

/-- Most bytes that one read asks for. -/
def block : Nat := 4096

/-- A line's bytes with its ending left out. -/
def content (bytes : List UInt8) : List UInt8 :=
  if bytes.getLast? = some carriageReturn then bytes.dropLast else bytes

/-- The text of a line given without its newline. -/
def text (bytes : List UInt8) : Except AdmissionError String :=
  match Utf8.decode? (content bytes) with
  | some s => .ok s
  | none => .error (.protocol .notUtf8)

/-- A line as it is sent. -/
def bytes (line : String) : List UInt8 := Utf8.encode line ++ [newline]

end Line

/-- Bytes received and not yet given out. `begun` is the unfinished line, last byte first, as far
as it has been searched for a newline. -/
structure LineBuffer where
  begun : List UInt8
  size : Nat
  ahead : List UInt8
  size_eq : size = begun.length
  unfinished : Line.newline ∉ begun

namespace LineBuffer

def empty : LineBuffer := ⟨[], 0, [], rfl, by simp⟩

/-- The bytes in the order they came. -/
def toList (b : LineBuffer) : List UInt8 := b.begun.reverse ++ b.ahead

def feed (b : LineBuffer) (bs : List UInt8) : LineBuffer := { b with ahead := b.ahead ++ bs }

def isEmpty (b : LineBuffer) : Bool := b.begun.isEmpty && b.ahead.isEmpty

/-- What a buffer allows next. -/
inductive Step where
  | line (bytes : List UInt8) (rest : LineBuffer)
  | tooLong (same : LineBuffer)
  | starved (same : LineBuffer)

/-- The same bytes, all of them searched. -/
def searched (b : LineBuffer) (h : b.ahead.dropWhile (· != Line.newline) = []) : LineBuffer where
  begun := b.ahead.reverseAux b.begun
  size := b.size + b.ahead.length
  ahead := []
  size_eq := by simp [b.size_eq, Nat.add_comm]
  unfinished := by
    have hall := List.all_takeWhile (p := (· != Line.newline)) (l := b.ahead)
    have hsplit := List.takeWhile_append_dropWhile (p := (· != Line.newline)) (l := b.ahead)
    rw [h, List.append_nil] at hsplit
    rw [hsplit, List.all_eq_true] at hall
    rw [List.reverseAux_eq, List.mem_append, List.mem_reverse]
    rintro (hn | hn)
    · simpa using hall _ hn
    · exact b.unfinished hn

/-- Searches the bytes ahead for the end of the line. -/
def step (b : LineBuffer) : Step :=
  match h : b.ahead.dropWhile (· != Line.newline) with
  | _ :: rest =>
    .line ((b.ahead.takeWhile (· != Line.newline)).reverseAux b.begun).reverse ⟨[], 0, rest, rfl, by simp⟩
  | [] =>
    if Line.limit ≤ b.size + b.ahead.length then .tooLong (b.searched h) else .starved (b.searched h)

theorem length_ahead_of_line {b rest : LineBuffer} {bytes : List UInt8} (h : b.step = .line bytes rest) :
    rest.ahead.length < b.ahead.length := by
  unfold step at h
  split at h
  · rename_i c more hd
    cases h
    have hl : (b.ahead.dropWhile (· != Line.newline)).length ≤ b.ahead.length :=
      (List.dropWhile_sublist _).length_le
    rw [hd, List.length_cons] at hl
    exact hl
  · split at h <;> cases h

theorem ahead_of_starved {b rest : LineBuffer} (h : b.step = .starved rest) : rest.ahead = [] := by
  unfold step at h
  split at h
  · cases h
  · split at h <;> cases h
    rfl

/-- The next line, or nothing at an end of the stream between lines. -/
def readLine (b : LineBuffer) (w : Wire) :
    Except AdmissionError (Option String) × LineBuffer × Wire :=
  match b.step with
  | .line bytes rest => ((Line.text bytes).map some, rest, w)
  | .tooLong same => (.error .lineTooLong, same, w)
  | .starved same =>
    match _h : w.read Line.block with
    | (.error e, after) => (.error (.channel e), same, after)
    | (.ok [], after) =>
      (if same.isEmpty then .ok none else .error (.protocol .endedMidLine), same, after)
    | (.ok (byte :: bs), after) => readLine (same.feed (byte :: bs)) after
termination_by w.pending
decreasing_by exact Wire.pending_read _h

/-- Finds lines behind those already found, which are held last first. -/
def receiveOnto (done : List (Except AdmissionError String)) (b : LineBuffer) (input : List UInt8) :
    List (Except AdmissionError String) × LineBuffer :=
  match _h : b.step with
  | .line bytes rest => receiveOnto (Line.text bytes :: done) rest input
  | .tooLong same => ((.error .lineTooLong :: done).reverse, same)
  | .starved same =>
    match input with
    | [] => (done.reverse, same)
    | byte :: more =>
      receiveOnto done (same.feed (byte :: more.take (Line.block - 1))) (more.drop (Line.block - 1))
termination_by 2 * input.length + b.ahead.length
decreasing_by
  · have := length_ahead_of_line _h
    omega
  · have := ahead_of_starved _h
    simp only [feed, this, List.nil_append, List.length_cons, List.length_take, List.length_drop]
    omega

/-- Every line that bytes in hand complete, read in blocks, until more must come or a line is too
long. -/
def receive (b : LineBuffer) (input : List UInt8) :
    List (Except AdmissionError String) × LineBuffer := receiveOnto [] b input

end LineBuffer

/-- Sends a line and flushes it. A channel that is found closed by then is no failure. -/
def Wire.writeLine (line : String) (w : Wire) : Except AdmissionError Unit × Wire :=
  match w.writeAll (Line.bytes line) with
  | (.error e, after) => (.error (.channel e), after)
  | (.ok (), after) =>
    match after.flush with
    | (.error e, flushed) => (.error (.channel e), flushed)
    | (.ok _, flushed) => (.ok (), flushed)

end Roster

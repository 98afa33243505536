import Roster.Text.Utf8
import Roster.Token.BigEndian
import Roster.Token.Error

/-! # Reading one record

A cursor walks over the bytes of one token. Each field is named so that a fault can say
what was being read, and a failing field leaves the cursor where its last complete part
ended. -/

namespace Roster

/-- A place in the token with the given index of its stream. -/
structure Cursor where
  index : Nat
  offset : Nat
  rest : List UInt8
  deriving DecidableEq, Repr

namespace Cursor

def start (index : Nat) (token : List UInt8) : Cursor := ⟨index, 0, token⟩

def advance (c : Cursor) (n : Nat) : Cursor := { c with offset := c.offset + n, rest := c.rest.drop n }

def fault (c : Cursor) (f : TokenFault) : StreamError := .malformedToken c.index f

end Cursor

abbrev Reader := ExceptT StreamError (StateM Cursor)

namespace Reader

def fail {α : Type} (f : TokenFault) : Reader α := do throw ((← get).fault f)

def bytes (n : Nat) (field : String) : Reader { bs : List UInt8 // bs.length = n } := do
  let c ← get
  if h : n ≤ c.rest.length then
    set (c.advance n)
    return ⟨c.rest.take n, List.length_take_of_le h⟩
  else throw (c.fault (.truncated field c.offset))

def u8 (field : String) : Reader UInt8 := do
  return UInt8.ofNat (BigEndian.value (← bytes 1 field).val)

def u16 (field : String) : Reader UInt16 := do
  return UInt16.ofNat (BigEndian.value (← bytes 2 field).val)

def u32 (field : String) : Reader UInt32 := do
  return UInt32.ofNat (BigEndian.value (← bytes 4 field).val)

def bool (field : String) : Reader Bool := do
  let n ← u8 field
  if n = 0 then return false
  else if n = 1 then return true
  else fail (.notBoolean field n)

def text (field : String) : Reader String := do
  let size ← u16 field
  let raw ← bytes size.toNat field
  match Utf8.decode? raw.val with
  | some s => return s
  | none => fail (.notUtf8 field)

def optionalText (field : String) : Reader (Option String) := do
  if ← bool field then return some (← text field)
  else return none

/-- The record must be read to its last byte. -/
def finish : Reader Unit := do
  let c ← get
  if c.rest.isEmpty then return ()
  else throw (c.fault (.trailing c.rest.length))

/-- Reads on from a given place; the place reached comes back also when a field fails. -/
def continueFrom {α : Type} (r : Reader α) (c : Cursor) : Except StreamError α × Cursor :=
  StateT.run (ExceptT.run r) c

/-- Reads the token with the given index of its stream. -/
def token {α : Type} (r : Reader α) (index : Nat) (bytes : List UInt8) : Except StreamError α :=
  (r.continueFrom (Cursor.start index bytes)).1

end Reader

end Roster

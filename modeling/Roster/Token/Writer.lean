import Roster.Text.Utf8
import Roster.Token.BigEndian
import Roster.Token.Error

/-! # Writing one record

A record is a run of fields without separators: numbers most significant byte first, texts
behind a two-byte length, optional texts behind a boolean. What was written before a
failing field stays written. -/

namespace Roster

abbrev Writer := ExceptT StreamError (StateM (List UInt8))

namespace Writer

def bytes (bs : List UInt8) : Writer Unit := modify (· ++ bs)

def u8 (n : UInt8) : Writer Unit := bytes [n]

def u16 (n : UInt16) : Writer Unit := bytes (BigEndian.encode 2 n.toNat)

def u32 (n : UInt32) : Writer Unit := bytes (BigEndian.encode 4 n.toNat)

def bool (b : Bool) : Writer Unit := u8 (if b then 1 else 0)

/-- Longest text a record can hold, in bytes. -/
def textLimit : Nat := 65535

def text (s : String) : Writer Unit :=
  if Utf8.size s ≤ textLimit then do
    u16 (UInt16.ofNat (Utf8.size s))
    bytes (Utf8.encode s)
  else throw (.corrupt (.textTooLong (Utf8.size s)))

def optionalText : Option String → Writer Unit
  | some s => do
    bool true
    text s
  | none => bool false

/-- Appends to a given record; the record comes back also when a field fails. -/
def extend (w : Writer Unit) (record : List UInt8) : Except StreamError Unit × List UInt8 :=
  StateT.run (ExceptT.run w) record

def record (w : Writer Unit) : Except StreamError (List UInt8) :=
  match w.extend [] with
  | (.ok (), bs) => .ok bs
  | (.error e, _) => .error e

end Writer

end Roster

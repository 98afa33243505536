import Roster.Subject.Error
import Roster.Text.Utf8
import Roster.Token.BigEndian

/-! # Text values of certificates

Four encodings occur, told apart by the value's tag. -/

namespace Roster

inductive TextKind where
  | utf8
  | latin1
  | utf16
  | utf32
  deriving DecidableEq, Repr

namespace TextKind

def ofTag? (tag : UInt8) : Option TextKind :=
  if tag = 0x0c ∨ tag = 0x13 ∨ tag = 0x16 then some utf8
  else if tag = 0x14 then some latin1
  else if tag = 0x1e then some utf16
  else if tag = 0x1c then some utf32
  else none

/-- The character with a code point; surrogates and numbers beyond the last plane have none. -/
def char? (n : Nat) : Option Char := if h : n.isValidChar then some ⟨n.toUInt32, by
  have hlt : n < UInt32.size := by
    rcases h with h | ⟨_, h⟩ <;> simp only [UInt32.size] <;> omega
  simpa [UInt32.isValidChar, Nat.mod_eq_of_lt hlt] using h⟩ else none

/-- Cuts a list into pieces of a positive size; the last piece may be short. -/
def chunksOnto (size : Nat) (done : List (List UInt8)) (bytes : List UInt8) : List (List UInt8) :=
  if _h : bytes.isEmpty ∨ size = 0 then done.reverse
  else chunksOnto size (bytes.take size :: done) (bytes.drop size)
  termination_by bytes.length
  decreasing_by
    simp only [not_or, List.isEmpty_iff] at _h
    have := List.length_pos_iff.mpr _h.1
    simp only [List.length_drop]
    omega

def chunks (size : Nat) (bytes : List UInt8) : List (List UInt8) := chunksOnto size [] bytes

/-- Reads sixteen-bit units; a high surrogate must be followed by a low one. -/
def ofUnits (done : List Char) : List Nat → Option (List Char)
  | [] => some done.reverse
  | high :: low :: rest =>
    if 0xD800 ≤ high ∧ high < 0xDC00 then
      if 0xDC00 ≤ low ∧ low < 0xE000 then do
        ofUnits ((← char? (0x10000 + (high - 0xD800) * 0x400 + (low - 0xDC00))) :: done) rest
      else none
    else do ofUnits ((← char? high) :: done) (low :: rest)
  | [unit] => do return ((← char? unit) :: done).reverse

def decode? (kind : TextKind) (bytes : List UInt8) : Option String :=
  match kind with
  | .utf8 => Utf8.decode? bytes
  | .latin1 => some (String.ofList (bytes.map fun b => Char.ofNat b.toNat))
  | .utf16 =>
    if bytes.length % 2 = 0 then
      (ofUnits [] ((chunks 2 bytes).map BigEndian.value)).map String.ofList
    else none
  | .utf32 =>
    if bytes.length % 4 = 0 then
      ((chunks 4 bytes).mapM fun c => char? (BigEndian.value c)).map String.ofList
    else none

def label : TextKind → String
  | .utf8 | .latin1 => "string"
  | .utf16 => "BMPString"
  | .utf32 => "UniversalString"

def decode (kind : TextKind) (bytes : List UInt8) : Except SubjectError String :=
  match kind.decode? bytes with
  | some s => .ok s
  | none => .error (.invalidText kind.label)

end TextKind

end Roster

import Roster.Net.Ip
import Roster.Text.Decimal
import Roster.Text.Quoted
import Roster.Text.Utf8

/-! # Names that server certificates are verified against -/

namespace Roster.ServerName

/-- Where a reader of a host name stands: at a label's start, in a label of digits only, in any
other label, or behind a hyphen. The length of the label so far is at most sixty-three. -/
inductive Position where
  | start
  | labelStart
  | labelStartAfterDigits
  | digits (length : Nat)
  | letters (length : Nat)
  | hyphen (length : Nat)

def isLetter (c : Char) : Bool := c.isAlpha || c == '_'

def labelLimit : Nat := 63

/-- The position behind a character inside a label of the given length. -/
def inLabel (length : Nat) (onlyDigits : Bool) (c : Char) : Option Position :=
  if labelLimit ≤ length then none
  else if c == '-' then some (.hyphen (length + 1))
  else if c.isDigit then some (if onlyDigits then .digits (length + 1) else .letters (length + 1))
  else if isLetter c then some (.letters (length + 1))
  else none

def atStart (c : Char) : Option Position :=
  if c.isDigit then some (.digits 1) else if isLetter c then some (.letters 1) else none

def next (p : Position) (c : Char) : Option Position :=
  match p with
  | .start | .labelStart | .labelStartAfterDigits => atStart c
  | .digits length => if c == '.' then some .labelStartAfterDigits else inLabel length true c
  | .letters length => if c == '.' then some .labelStart else inLabel length false c
  | .hyphen length => if c == '.' then none else inLabel length false c

/-- A name may end in a label that is not only digits, or in the point behind one. -/
def mayEnd : Position → Bool
  | .labelStart | .letters _ => true
  | _ => false

def nameLimit : Nat := 253

def isHostName (s : String) : Bool :=
  Utf8.size s ≤ nameLimit && ((s.toList.foldlM next Position.start).any mayEnd)

def isValid (s : String) : Bool := isHostName s || (Ip.parse? s).isSome

/-- Splits a text at its last colon. -/
def splitLastColon? (s : String) : Option (String × String) :=
  let back := s.toList.reverse
  let tail := back.takeWhile (· != ':')
  match back.drop tail.length with
  | _ :: front => some (String.ofList front.reverse, String.ofList tail.reverse)
  | [] => none

/-- The host part of an address, without brackets around it. -/
def hostOf (address : String) : String :=
  let host := match splitLastColon? address with
    | some (host, _) => host
    | none => address
  let opened := host.toList.dropWhile (· == '[')
  String.ofList ((opened.reverse.dropWhile (· == ']')).reverse)

/-- The name to verify when an address is dialled: the one given, or else the host. A failure
gives back the refused name. -/
def forAddress (address : String) (given : Option String) : Except String String :=
  let name := given.getD (hostOf address)
  if isValid name then .ok name else .error name

def refusal (name : String) : String :=
  let quoted := Quoted.text name
  s!"invalid server name {quoted}: invalid dns name"

end Roster.ServerName

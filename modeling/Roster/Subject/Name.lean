import Roster.Subject.Der
import Roster.Subject.Escape
import Roster.Subject.Oid
import Roster.Subject.Text

/-! # Distinguished names

A name is a list of relative names, each a non-empty list of attributes. It is written with
the last relative name first; attributes of well-known types have short names, and a value
that is no text is written as the hex digits of its element. -/

namespace Roster

inductive AttributeValue where
  | text (s : String)
  | raw (element : List UInt8)
  deriving DecidableEq, Repr

structure Attribute where
  oid : Oid
  value : AttributeValue
  deriving DecidableEq, Repr

abbrev DistinguishedName := List (List Attribute)

namespace Attribute

def shortNames : List (Oid × String) := [
  ([2, 5, 4, 3], "CN"),
  ([2, 5, 4, 7], "L"),
  ([2, 5, 4, 8], "ST"),
  ([2, 5, 4, 10], "O"),
  ([2, 5, 4, 11], "OU"),
  ([2, 5, 4, 6], "C"),
  ([2, 5, 4, 9], "STREET"),
  ([0, 9, 2342, 19200300, 100, 1, 25], "DC"),
  ([0, 9, 2342, 19200300, 100, 1, 1], "UID")]

def shortName? (oid : Oid) : Option String := shortNames.lookup oid

/-- Only attributes of well-known types have text values. -/
def valueOf (oid : Oid) (e : Der.Element) : Except SubjectError AttributeValue :=
  match shortName? oid, TextKind.ofTag? e.tag with
  | some _, some kind => (kind.decode e.content).map .text
  | _, _ => .ok (.raw e.raw)

def read (bytes : List UInt8) : Except SubjectError Attribute := do
  let (digits, rest) ← Der.expect 0x06 "attribute type" bytes
  let oid ← Oid.decode digits
  let (e, rest) ← Der.next rest
  if !rest.isEmpty then throw .trailingInAttribute
  return ⟨oid, ← valueOf oid e⟩

def text (a : Attribute) : String :=
  let name := (shortName? a.oid).getD (Oid.text a.oid)
  match a.value with
  | .text s => name ++ "=" ++ Escape.text s
  | .raw element => name ++ "=#" ++ Hex.text element

end Attribute

namespace DistinguishedName

def readRelative (bytes : List UInt8) : Except SubjectError (List Attribute) := do
  match ← Der.each 0x30 "attribute" Attribute.read bytes with
  | [] => throw .emptyRelativeName
  | attributes => return attributes

/-- Reads the content of a name element. -/
def read (bytes : List UInt8) : Except SubjectError DistinguishedName :=
  Der.each 0x31 "relative distinguished name" readRelative bytes

def text (name : DistinguishedName) : String :=
  ",".intercalate (name.reverse.map fun attributes => "+".intercalate (attributes.map Attribute.text))

end DistinguishedName

end Roster

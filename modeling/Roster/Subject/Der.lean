import Roster.Subject.Error
import Roster.Token.BigEndian

/-! # Tagged elements

An element is a tag byte, a length and that many bytes of content. A length below 128 is one
byte; a longer form gives the number of length bytes, one to four of them, first. -/

namespace Roster.Der

/-- `header` holds the tag and the length bytes as they were read. -/
structure Element where
  tag : UInt8
  header : List UInt8
  content : List UInt8
  deriving DecidableEq, Repr

def Element.raw (e : Element) : List UInt8 := e.header ++ e.content

/-- Cuts the content off what follows the header. -/
def body (tag : UInt8) (header : List UInt8) (length : Nat) (rest : List UInt8) :
    Except SubjectError (Element × List UInt8) :=
  if (rest.take length).length < length then .error (.overrun length)
  else .ok (⟨tag, header, rest.take length⟩, rest.drop length)

/-- Reads on behind a first length byte that gives the number of length bytes. -/
def longForm (tag first : UInt8) (count : Nat) (rest : List UInt8) :
    Except SubjectError (Element × List UInt8) :=
  if count = 0 ∨ 4 < count ∨ (rest.take count).length < count then .error .unsupportedLength
  else body tag (tag :: first :: rest.take count) (BigEndian.value (rest.take count)) (rest.drop count)

/-- Reads the first element; the bytes behind it come back with it. -/
def next : List UInt8 → Except SubjectError (Element × List UInt8)
  | [] => .error .endOfData
  | [tag] => .error (if tag &&& 0x1f = 0x1f then .multiByteTag else .missingLength)
  | tag :: first :: rest =>
    if tag &&& 0x1f = 0x1f then .error .multiByteTag
    else if first < 0x80 then body tag [tag, first] first.toNat rest
    else longForm tag first (first.toNat - 0x80) rest

/-- The content of the first element, which must have the given tag. -/
def expect (tag : UInt8) (what : String) (bytes : List UInt8) :
    Except SubjectError (List UInt8 × List UInt8) := do
  let (e, rest) ← next bytes
  if e.tag ≠ tag then throw (.unexpectedTag what tag e.tag)
  return (e.content, rest)

theorem raw_append_of_body {tag : UInt8} {header rest after : List UInt8} {length : Nat} {e : Element}
    (h : body tag header length rest = .ok (e, after)) :
    e.raw ++ after = header ++ rest ∧ e.header = header := by
  unfold body at h
  split at h
  · cases h
  · cases h
    simp [Element.raw]

theorem raw_append_of_longForm {tag first : UInt8} {count : Nat} {rest after : List UInt8} {e : Element}
    (h : longForm tag first count rest = .ok (e, after)) :
    e.raw ++ after = tag :: first :: rest ∧ 2 ≤ e.header.length := by
  unfold longForm at h
  split at h
  · cases h
  · obtain ⟨happend, hheader⟩ := raw_append_of_body h
    simp [happend, hheader]

/-- An element and the bytes behind it are exactly the bytes that were there, and an element
has at least its tag and one length byte. -/
theorem raw_append_of_next {bytes rest : List UInt8} {e : Element}
    (h : next bytes = .ok (e, rest)) : e.raw ++ rest = bytes ∧ 2 ≤ e.header.length := by
  unfold next at h
  split at h
  · cases h
  · cases h
  · split at h
    · cases h
    · split at h
      · obtain ⟨happend, hheader⟩ := raw_append_of_body h
        simp [happend, hheader]
      · exact raw_append_of_longForm h

theorem length_rest_lt {bytes rest : List UInt8} {e : Element}
    (h : next bytes = .ok (e, rest)) : rest.length < bytes.length := by
  obtain ⟨hraw, htwo⟩ := raw_append_of_next h
  have hlength := congrArg List.length hraw
  simp only [Element.raw, List.length_append] at hlength
  omega

/-- Reads the contents of a run of elements that all have the given tag. Each content is
interpreted before the next element is looked at. -/
def each {α : Type} (tag : UInt8) (what : String) (interpret : List UInt8 → Except SubjectError α)
    (bytes : List UInt8) : Except SubjectError (List α) :=
  if bytes.isEmpty then .ok []
  else
    match _h : next bytes with
    | .error e => .error e
    | .ok (e, rest) => do
      if e.tag ≠ tag then throw (.unexpectedTag what tag e.tag)
      let first ← interpret e.content
      return first :: (← each tag what interpret rest)
  termination_by bytes.length
  decreasing_by exact length_rest_lt _h

end Roster.Der

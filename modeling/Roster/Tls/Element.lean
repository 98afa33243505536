import Roster.Token.BigEndian

/-! # Elements in their one allowed form

Certificates and keys are made of elements: a tag byte, a length and the content. Only the
shortest form of a length is read, and tags of more than one byte are refused. -/

namespace Roster.Tls

structure Element where
  tag : UInt8
  content : List UInt8
  deriving DecidableEq, Repr

/-- How many bytes a long length may have, and a bound that every length stays below. -/
structure Limits where
  lengthBytes : Nat
  bound : Nat

namespace Element

/-- The length at the start of some bytes, and what follows it. -/
def length? (l : Limits) : List UInt8 → Option (Nat × List UInt8)
  | [] => none
  | first :: rest =>
    if first < 0x80 then some (first.toNat, rest)
    else
      let count := first.toNat - 0x80
      let n := BigEndian.value (rest.take count)
      if count = 0 ∨ l.lengthBytes < count ∨ rest.length < count then none
      else if n < 128 ∨ n < Nat.pow 256 (count - 1) then none
      else some (n, rest.drop count)

/-- The first element, and what follows it. -/
def next? (l : Limits) : List UInt8 → Option (Element × List UInt8)
  | [] => none
  | tag :: rest =>
    if tag &&& 0x1f = 0x1f then none
    else
      match length? l rest with
      | none => none
      | some (n, rest) =>
        let content := rest.take n
        if n < l.bound ∧ content.length = n then some (⟨tag, content⟩, rest.drop n) else none

theorem length_of_length? {l : Limits} {bytes rest : List UInt8} {n : Nat}
    (h : length? l bytes = some (n, rest)) : rest.length ≤ bytes.length := by
  unfold length? at h
  split at h
  · cases h
  split at h
  · cases h
    exact Nat.le_succ _
  dsimp only at h
  split at h
  · cases h
  split at h
  · cases h
  · simp only [Option.some.injEq, Prod.mk.injEq] at h
    rw [← h.2, List.length_drop]
    exact Nat.le_trans (Nat.sub_le _ _) (Nat.le_succ _)

theorem length_rest_lt {l : Limits} {bytes rest : List UInt8} {e : Element}
    (h : next? l bytes = some (e, rest)) : rest.length < bytes.length := by
  unfold next? at h
  split at h
  · cases h
  split at h
  · cases h
  split at h
  · cases h
  · rename_i hn
    have hle := length_of_length? hn
    dsimp only at h
    split at h
    · simp only [Option.some.injEq, Prod.mk.injEq] at h
      rw [← h.2, List.length_drop]
      exact Nat.lt_succ_of_le (Nat.le_trans (Nat.sub_le _ _) hle)
    · cases h

/-- The content of the first element, which must have the given tag. -/
def expect? (l : Limits) (tag : UInt8) (bytes : List UInt8) : Option (List UInt8 × List UInt8) :=
  match next? l bytes with
  | some (e, rest) => if e.tag = tag then some (e.content, rest) else none
  | none => none

/-- The content of an element with nothing behind it. -/
def only? (l : Limits) (tag : UInt8) (bytes : List UInt8) : Option (List UInt8) :=
  match expect? l tag bytes with
  | some (content, []) => some content
  | _ => none

/-- The bytes of a bit string that fills its last byte. -/
def wholeBits? : List UInt8 → Option (List UInt8)
  | 0 :: bytes => some bytes
  | _ => none

/-- A number that is not negative, without needless leading zeros. -/
def natural? : List UInt8 → Option Nat
  | [] => none
  | 0 :: second :: rest =>
    if second < 0x80 then none else some (BigEndian.value (second :: rest))
  | first :: rest => if first < 0x80 then some (BigEndian.value (first :: rest)) else none

/-- A natural number as an element. -/
def expectNatural? (l : Limits) (bytes : List UInt8) : Option (Nat × List UInt8) :=
  match expect? l 0x02 bytes with
  | some (content, rest) => (natural? content).map (·, rest)
  | none => none

def lengthForm (n : Nat) : List UInt8 :=
  if n < 128 then [UInt8.ofNat n]
  else if n < 256 then [0x81, UInt8.ofNat n]
  else 0x82 :: BigEndian.encode 2 n

/-- Writes an element with less than 65536 bytes of content. -/
def write (tag : UInt8) (content : List UInt8) : List UInt8 :=
  tag :: lengthForm content.length ++ content

/-- The fewest bytes of a number, at least one. -/
def naturalBytes (n : Nat) : List UInt8 := BigEndian.encode (Nat.log2 n / 8 + 1) n

/-- Writes a natural number. A zero in front keeps a high first bit from being a sign. -/
def writeNatural (n : Nat) : List UInt8 :=
  let bytes := naturalBytes n
  write 0x02 (if 0x80 ≤ bytes.headD 0 then 0 :: bytes else bytes)

end Element

end Roster.Tls

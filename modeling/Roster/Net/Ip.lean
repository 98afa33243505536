import Roster.Token.Hex

/-! # Network addresses

IPv4 and IPv6 addresses with their usual text forms, alone and with a port. Every address has
one canonical text: an IPv6 address is written with its longest run of zeros shortened, the
first of them if several are longest. -/

namespace Roster

inductive Ip where
  | v4 (a b c d : UInt8)
  | v6 (parts : Vector UInt16 8)
  deriving DecidableEq, Repr

namespace Ip

/-- The value of a digit in a radix of at most sixteen, letters in either case. -/
def digit? (radix : Nat) (c : Char) : Option Nat :=
  (Hex.value? c.toLower).filter (· < radix)

/-- Reads at least one digit and gives the value, at most `most` digits if that is given. -/
def number? (radix : Nat) (most : Option Nat) (leadingZero : Bool) (limit : Nat) (cs : List Char) :
    Option (Nat × List Char) :=
  let digits := cs.takeWhile fun c => (digit? radix c).isSome
  let value := digits.foldl (fun n c => n * radix + (digit? radix c).getD 0) 0
  if digits.isEmpty then none
  else if most.any (· < digits.length) then none
  else if !leadingZero && digits.head? == some '0' && 1 < digits.length then none
  else if limit ≤ value then none
  else some (value, cs.drop digits.length)

def octet? (cs : List Char) : Option (UInt8 × List Char) :=
  (number? 10 (some 3) false 256 cs).map fun (n, rest) => (UInt8.ofNat n, rest)

def dottedOctet? : List Char → Option (UInt8 × List Char)
  | '.' :: cs => octet? cs
  | _ => none

def readV4 (cs : List Char) : Option ((UInt8 × UInt8 × UInt8 × UInt8) × List Char) := do
  let (a, cs) ← octet? cs
  let (b, cs) ← dottedOctet? cs
  let (c, cs) ← dottedOctet? cs
  let (d, cs) ← dottedOctet? cs
  return ((a, b, c, d), cs)

def pairUp (high low : UInt8) : UInt16 := UInt16.ofNat (high.toNat * 256 + low.toNat)

/-- Skips the colon that stands before every part but the first. -/
def skipColon (first : Bool) (cs : List Char) : Option (List Char) :=
  if first then some cs
  else
    match cs with
    | ':' :: rest => some rest
    | _ => none

/-- Reads up to `room` parts behind those already read, last first. Two parts may be written as an
IPv4 address, which ends the run; whether that happened comes back too. -/
def readParts (room : Nat) (done : List UInt16) (cs : List Char) : List UInt16 × Bool × List Char :=
  match room with
  | 0 => (done.reverse, false, cs)
  | room + 1 =>
    match skipColon done.isEmpty cs with
    | none => (done.reverse, false, cs)
    | some after =>
      match if 0 < room then readV4 after else none with
      | some ((a, b, c, d), rest) => ((pairUp c d :: pairUp a b :: done).reverse, true, rest)
      | none =>
        match number? 16 (some 4) true 65536 after with
        | some (n, rest) => readParts room (UInt16.ofNat n :: done) rest
        | none => (done.reverse, false, cs)

def ofParts? (parts : List UInt16) : Option (Vector UInt16 8) :=
  if h : parts.length = 8 then some ⟨parts.toArray, by simpa using h⟩ else none

/-- Reads an IPv6 address; two colons stand for at least one zero part. -/
def readV6 (cs : List Char) : Option (Vector UInt16 8 × List Char) :=
  let (front, dotted, rest) := readParts 8 [] cs
  if front.length = 8 then (ofParts? front).map fun parts => (parts, rest)
  else if dotted then none
  else
    match rest with
    | ':' :: ':' :: rest =>
      let (back, _, rest) := readParts (7 - front.length) [] rest
      let zeros := List.replicate (8 - front.length - back.length) 0
      (ofParts? (front ++ zeros ++ back)).map fun parts => (parts, rest)
    | _ => none

def parse? (s : String) : Option Ip :=
  match readV4 s.toList, readV6 s.toList with
  | some ((a, b, c, d), []), _ => some (.v4 a b c d)
  | _, some (parts, []) => some (.v6 parts)
  | _, _ => none

def isUnspecified : Ip → Bool
  | v4 a b c d => a == 0 && b == 0 && c == 0 && d == 0
  | v6 parts => parts.toList.all (· == 0)

def textV4 (a b c d : UInt8) : String := s!"{a}.{b}.{c}.{d}"

def partText (part : UInt16) : String := String.ofList (Nat.toDigits 16 part.toNat)

def joinParts (parts : List UInt16) : String := ":".intercalate (parts.map partText)

/-- Length of the run of zeros at each part, the part itself counted. -/
def zeroRuns : List UInt16 → List Nat
  | [] => []
  | part :: rest =>
    let runs := zeroRuns rest
    (if part == 0 then runs.headD 0 + 1 else 0) :: runs

def textV6 (parts : List UInt16) : String :=
  match parts with
  | [0, 0, 0, 0, 0, 0xffff, ab, cd] =>
    "::ffff:" ++ textV4 (ab / 256).toUInt8 ab.toUInt8 (cd / 256).toUInt8 cd.toUInt8
  | _ =>
    let runs := zeroRuns parts
    let longest := runs.foldl max 0
    if longest < 2 then joinParts parts
    else
      let first := runs.findIdx (· == longest)
      joinParts (parts.take first) ++ "::" ++ joinParts (parts.drop (first + longest))

def text : Ip → String
  | v4 a b c d => textV4 a b c d
  | v6 parts => textV6 parts.toList

end Ip

/-- An address with a port; only IPv6 addresses have scopes. -/
structure SocketAddress where
  ip : Ip
  scope : UInt32
  port : UInt16
  deriving DecidableEq, Repr

namespace SocketAddress

def readPort (cs : List Char) : Option UInt16 :=
  match Ip.number? 10 none true 65536 cs with
  | some (n, []) => some (UInt16.ofNat n)
  | _ => none

/-- A percent sign that no number follows is not part of the scope. -/
def readScope (cs : List Char) : UInt32 × List Char :=
  match cs with
  | '%' :: rest =>
    match Ip.number? 10 none true UInt32.size rest with
    | some (n, rest) => (UInt32.ofNat n, rest)
    | none => (0, cs)
  | _ => (0, cs)

def parse? (s : String) : Option SocketAddress :=
  match s.toList with
  | '[' :: cs => do
    let (parts, cs) ← Ip.readV6 cs
    let (scope, cs) := readScope cs
    match cs with
    | ']' :: ':' :: cs => return ⟨.v6 parts, scope, ← readPort cs⟩
    | _ => none
  | cs => do
    let ((a, b, c, d), cs) ← Ip.readV4 cs
    match cs with
    | ':' :: cs => return ⟨.v4 a b c d, 0, ← readPort cs⟩
    | _ => none

def text (a : SocketAddress) : String :=
  match a.ip with
  | .v4 .. => s!"{a.ip.text}:{a.port}"
  | .v6 _ => if a.scope = 0 then s!"[{a.ip.text}]:{a.port}" else s!"[{a.ip.text}%{a.scope}]:{a.port}"

end SocketAddress

end Roster

import Roster.Text.Utf8

/-! # Certificates and keys in text files

A file is a run of sections, each a base64 text between a line that opens it and one that
closes it. Lines outside sections do not count; neither do sections with an unknown label. -/

namespace Roster.Pem

inductive Label where
  | certificate
  | publicKey
  | rsaPrivateKey
  | privateKey
  | ecPrivateKey
  | revocationList
  | request
  | helloConfigs
  deriving DecidableEq, Repr

def Label.ofText? : String → Option Label
  | "CERTIFICATE" => some certificate
  | "PUBLIC KEY" => some publicKey
  | "RSA PRIVATE KEY" => some rsaPrivateKey
  | "PRIVATE KEY" => some privateKey
  | "EC PRIVATE KEY" => some ecPrivateKey
  | "X509 CRL" => some revocationList
  | "CERTIFICATE REQUEST" => some request
  | "ECHCONFIG" => some helloConfigs
  | _ => none

def Label.isPrivateKey : Label → Bool
  | rsaPrivateKey | privateKey | ecPrivateKey => true
  | _ => false

structure Item where
  label : Label
  content : List UInt8
  deriving DecidableEq, Repr

/-- Value of a base64 digit. -/
def digit? (b : UInt8) : Option Nat :=
  let n := b.toNat
  if 65 ≤ n ∧ n ≤ 90 then some (n - 65)
  else if 97 ≤ n ∧ n ≤ 122 then some (n - 71)
  else if 48 ≤ n ∧ n ≤ 57 then some (n + 4)
  else if n = 43 then some 62
  else if n = 47 then some 63
  else none

def isSpace (b : UInt8) : Bool := (9 ≤ b && b ≤ 13) || b == 32

/-- Decodes groups of four digits behind the bytes already decoded, last first. The last group may
be short, with or without padding that completes it; what its last digit has beyond whole bytes
does not count. -/
def decodeOnto (done : List UInt8) : List UInt8 → Option (List UInt8)
  | [] => some done.reverse
  | [a, b] | [a, b, 61, 61] => do
    let x := (← digit? a) * 64 + (← digit? b)
    return (UInt8.ofNat (x / 16) :: done).reverse
  | [a, b, c] | [a, b, c, 61] => do
    let x := ((← digit? a) * 64 + (← digit? b)) * 64 + (← digit? c)
    return (UInt8.ofNat (x / 4) :: UInt8.ofNat (x / 1024) :: done).reverse
  | a :: b :: c :: d :: rest => do
    let x := (((← digit? a) * 64 + (← digit? b)) * 64 + (← digit? c)) * 64 + (← digit? d)
    decodeOnto (UInt8.ofNat x :: UInt8.ofNat (x / 256) :: UInt8.ofNat (x / 65536) :: done) rest
  | [_] => none

def decodeBase64? (bytes : List UInt8) : Option (List UInt8) :=
  decodeOnto [] (bytes.filter fun b => !isSpace b)

/-- Lines with their ends, which are line feeds and carriage returns. -/
def lines (bytes : List UInt8) : List (List UInt8) :=
  bytes.foldr (fun b ls =>
    if b == 10 || b == 13 then [b] :: ls
    else
      match ls with
      | [] => [[b]]
      | l :: rest => (b :: l) :: rest) []

def opening : List UInt8 := Utf8.encode "-----BEGIN "

def closing (label : List UInt8) : List UInt8 := Utf8.encode "-----END " ++ label ++ Utf8.encode "-----"

/-- Drops the hyphens at the end of a line held last byte first, blanks among them not counted,
and gives their number. -/
def dropHyphens (count : Nat) : List UInt8 → Nat × List UInt8
  | 45 :: rest => dropHyphens (count + 1) rest
  | b :: rest =>
    if b == 10 || b == 13 || b == 32 then
      let (n, after) := dropHyphens count rest
      if n == count then (count, b :: rest) else (n, after)
    else (count, b :: rest)
  | [] => (count, [])

/-- The label of a line that opens a section, which must end in five hyphens. -/
def labelOf? (line : List UInt8) : Option (List UInt8) :=
  let (count, rest) := dropHyphens 0 line.reverse
  if count == 5 then some (rest.reverse.drop opening.length) else none

/-- The sections of a file up to the first malformed one, and whether there is none. -/
structure Contents where
  items : List Item
  wellFormed : Bool
  deriving DecidableEq, Repr

/-- Reads the lines behind the items already read, last first. An open section has its label, and
its text is held last line first; a section's text goes on when another one opens inside it. -/
def read (done : List Item) (label : Option (List UInt8)) (text : List (List UInt8)) :
    List (List UInt8) → Contents
  | [] => ⟨done.reverse, label.isNone⟩
  | line :: rest =>
    if opening.isPrefixOf line then
      match labelOf? line with
      | some l => read done (some l) text rest
      | none => ⟨done.reverse, false⟩
    else
      match label with
      | none => read done none text rest
      | some l =>
        if (closing l).isPrefixOf line then
          match (Utf8.decode? l).bind Label.ofText? with
          | none => read done none [] rest
          | some kind =>
            match decodeBase64? text.reverse.flatten with
            | some content => read (⟨kind, content⟩ :: done) none [] rest
            | none => ⟨done.reverse, false⟩
        else read done label (line :: text) rest

def contents (file : List UInt8) : Contents := read [] none [] (lines file)

end Roster.Pem

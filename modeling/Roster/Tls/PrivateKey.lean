import Roster.Tls.Curve
import Roster.Tls.Edwards
import Roster.Tls.Element
import Roster.Tls.Pem
import Roster.Tls.Rsa

/-! # Private keys

A key comes in a form of its own or inside an envelope that names its kind. Whatever a key says of
its public half must be right. What matters of a key is the public half, in the form in which
certificates hold it. -/

namespace Roster.Tls.PrivateKey

open Element

/-- Keys know lengths of two bytes only. -/
def limits : Limits := ⟨2, 65536⟩

/-- The content of an identifier and the curve, if any, that goes with it. -/
def rsaAlgorithm : List UInt8 :=
  write 0x06 [0x2a, 0x86, 0x48, 0x86, 0xf7, 0x0d, 0x01, 0x01, 0x01] ++ write 0x05 []

def edwardsAlgorithm : List UInt8 := write 0x06 [0x2b, 0x65, 0x70]

/-- A curve with the element of its identifier. -/
structure NamedCurve where
  curve : Curve
  id : List UInt8

def curves : List NamedCurve := [
  ⟨.p256, write 0x06 [0x2a, 0x86, 0x48, 0xce, 0x3d, 0x03, 0x01, 0x07]⟩,
  ⟨.p384, write 0x06 [0x2b, 0x81, 0x04, 0x00, 0x22]⟩]

def NamedCurve.algorithm (c : NamedCurve) : List UInt8 :=
  write 0x06 [0x2a, 0x86, 0x48, 0xce, 0x3d, 0x02, 0x01] ++ c.id

/-- A public key as the content of a certificate's key element. -/
def publicInfo (algorithm key : List UInt8) : List UInt8 :=
  write 0x30 algorithm ++ write 0x03 (0 :: key)

/-! ### The envelope -/

/-- What an envelope holds: the key proper and, in its second version, the public key. -/
structure Envelope where
  key : List UInt8
  publicKey : Option (List UInt8)
  deriving DecidableEq, Repr

/-- Skips an element that may be left out. -/
def skip? (tag : UInt8) (bytes : List UInt8) : Option (List UInt8) :=
  if bytes.head? = some tag then (expect? limits tag bytes).map (·.2) else some bytes

/-- A public key that ends an envelope, with a tag in place of a bit string's or around one. -/
def lastPublicKey? (bytes : List UInt8) : Option (List UInt8) := do
  if bytes.head? = some 0xa1 then
    let content ← only? limits 0xa1 bytes
    wholeBits? (← only? limits 0x03 content)
  else wholeBits? (← only? limits 0x81 bytes)

/-- Opens an envelope around a key of one kind. -/
def open? (algorithm : List UInt8) (secondVersion : Bool) (bytes : List UInt8) :
    Option Envelope := do
  let content ← only? limits 0x30 bytes
  let (version, rest) ← expectNatural? limits content
  let (found, rest) ← expect? limits 0x30 rest
  if found ≠ algorithm then none
  let (key, rest) ← expect? limits 0x04 rest
  let rest ← skip? 0xa0 rest
  if version = 0 then if rest.isEmpty then some ⟨key, none⟩ else none
  else if version = 1 ∧ secondVersion then
    let publicKey ← lastPublicKey? rest
    some ⟨key, some publicKey⟩
  else none

/-! ### Kinds of keys -/

/-- The public half of a key made of two primes. -/
def rsaPublic? (bytes : List UInt8) : Option (List UInt8) := do
  let content ← only? limits 0x30 bytes
  let (version, rest) ← expectNatural? limits content
  if version ≠ 0 then none
  let (n, rest) ← expectNatural? limits rest
  let (e, rest) ← expectNatural? limits rest
  let (d, rest) ← expectNatural? limits rest
  let (p, rest) ← expectNatural? limits rest
  let (q, rest) ← expectNatural? limits rest
  let (dp, rest) ← expectNatural? limits rest
  let (dq, rest) ← expectNatural? limits rest
  let (coefficient, rest) ← expectNatural? limits rest
  let key : RsaKey := ⟨n, e, d, p, q, dp, dq, coefficient⟩
  if !rest.isEmpty || !key.isSound then none
  let pair := writeNatural n ++ writeNatural e
  some (publicInfo rsaAlgorithm (write 0x30 pair))

/-- The public half of a key on a curve, which has to come with it. -/
def curvePublic? (c : NamedCurve) (bytes : List UInt8) : Option (List UInt8) := do
  let content ← only? limits 0x30 bytes
  let (version, rest) ← expectNatural? limits content
  if version ≠ 1 then none
  let (secret, rest) ← expect? limits 0x04 rest
  if secret.length ≠ c.curve.width then none
  let rest ← if rest.head? = some 0xa0 then do
      let (id, rest) ← expect? limits 0xa0 rest
      if id = c.id then some rest else none
    else some rest
  let wrapped ← only? limits 0xa1 rest
  let point ← wholeBits? (← only? limits 0x03 wrapped)
  let derived ← c.curve.publicKey? (BigEndian.value secret)
  if point = derived then some (publicInfo c.algorithm point) else none

/-- The public half of a key on the twisted curve. -/
def edwardsPublic? (e : Envelope) : Option (List UInt8) := do
  let seed ← only? limits 0x04 e.key
  if seed.length ≠ 32 then none
  let derived := Edwards.publicKey seed
  match e.publicKey with
  | some known => if known = derived then some (publicInfo edwardsAlgorithm derived) else none
  | none => some (publicInfo edwardsAlgorithm derived)

/-- The first kind of key, of those that an item can hold, that it does hold. -/
def publicInfo? (item : Pem.Item) : Option (List UInt8) :=
  let bytes := item.content
  match item.label with
  | .rsaPrivateKey => rsaPublic? bytes
  | .ecPrivateKey => curves.findSome? fun c => curvePublic? c bytes
  | .privateKey =>
    (((open? rsaAlgorithm false bytes).bind fun e => rsaPublic? e.key).or
      (curves.findSome? fun c =>
        (open? c.algorithm false bytes).bind fun e => curvePublic? c e.key)).or
      ((open? edwardsAlgorithm true bytes).bind edwardsPublic?)
  | _ => none

end Roster.Tls.PrivateKey

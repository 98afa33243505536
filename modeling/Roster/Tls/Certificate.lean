import Roster.Settings.Error
import Roster.Tls.Element

/-! # The form of certificates

A certificate is a signed part, the algorithm of the signature and the signature. Nothing is
verified here. Only the outline is checked, and that no extension is there twice or, if it must be
understood, unknown. -/

namespace Roster.Tls.CertificateForm

open Element

def limits : Limits := ⟨4, 65535⟩

abbrev Checked := Except CertificateFault

def expect (tag : UInt8) (bytes : List UInt8) : Checked (List UInt8 × List UInt8) :=
  match expect? limits tag bytes with
  | some found => .ok found
  | none => .error .encoding

/-- The content of an element with nothing behind it. -/
def only (tag : UInt8) (bytes : List UInt8) : Checked (List UInt8) :=
  match only? limits tag bytes with
  | some content => .ok content
  | none => .error .encoding

/-! ### Extensions -/

structure Extension where
  id : List UInt8
  critical : Bool
  value : List UInt8
  deriving DecidableEq, Repr

/-- Reads an extension; what follows its value comes back with it. -/
def extension (content : List UInt8) : Checked (Extension × List UInt8) := do
  let (id, rest) ← expect 0x06 content
  let (critical, rest) ← if rest.head? = some 0x01 then do
      let (flag, rest) ← expect 0x01 rest
      if flag = [0xff] then pure (true, rest)
      else if flag = [0x00] then pure (false, rest)
      else throw .encoding
    else pure (false, rest)
  let (value, rest) ← expect 0x04 rest
  return (⟨id, critical, value⟩, rest)

/-- How keys may be used; of this extension only the name is looked at. -/
def keyUsage : List UInt8 := [0x55, 0x1d, 15]

/-- The extensions that are understood. -/
def knownExtensions : List (List UInt8) :=
  keyUsage :: [17, 19, 30, 31, 37].map fun n => [0x55, 0x1d, n]

/-- Checks an extension behind those whose identifiers have been `seen`. -/
def checkExtension (seen : List (List UInt8)) (e : Extension) : Checked (List (List UInt8)) :=
  if !knownExtensions.contains e.id then
    if e.critical then .error .criticalExtension else .ok seen
  else if seen.contains e.id then .error .extensionValue
  else if e.id = keyUsage then .ok (e.id :: seen)
  else do
    discard (only 0x30 e.value)
    return e.id :: seen

/-- Checks a list of extensions, each before the next one is looked at. -/
def checkExtensions (seen : List (List UInt8)) (bytes : List UInt8) : Checked Unit :=
  if bytes.isEmpty then .ok ()
  else
    match _h : next? limits bytes with
    | none => .error .encoding
    | some (e, rest) => do
      if e.tag ≠ 0x30 then throw .encoding
      let (found, behind) ← extension e.content
      let seen ← checkExtension seen found
      if !behind.isEmpty then throw .encoding
      checkExtensions seen rest
  termination_by bytes.length
  decreasing_by exact length_rest_lt _h

/-! ### Whole certificates -/

/-- Skips the version, which has to be the third. -/
def skipVersion (bytes : List UInt8) : Checked (List UInt8) := do
  let some (content, rest) := expect? limits 0xa0 bytes | throw .version
  let (number, after) ← expect 0x02 content
  match number with
  | [0, n] => if n < 0x80 then throw .encoding else throw .version
  | [n] =>
    if 0x80 ≤ n then throw .encoding
    if n ≠ 2 || !after.isEmpty then throw .version
    return rest
  | _ => throw .encoding

/-- The content of the public key element. -/
def publicKey (certificate : List UInt8) : Checked (List UInt8) := do
  let body ← only 0x30 certificate
  let (signed, rest) ← expect 0x30 body
  let (algorithm, rest) ← expect 0x30 rest
  let signature ← only 0x03 rest
  if (wholeBits? signature).isNone then throw .encoding
  let rest ← skipVersion signed
  let (_, rest) ← expect 0x02 rest
  let (signedAlgorithm, rest) ← expect 0x30 rest
  if signedAlgorithm ≠ algorithm then throw .signatureAlgorithm
  let (_, rest) ← expect 0x30 rest
  let (_, rest) ← expect 0x30 rest
  let (_, rest) ← expect 0x30 rest
  let (key, rest) ← expect 0x30 rest
  if !rest.isEmpty then
    let (tagged, rest) ← expect 0xa3 rest
    let (extensions, behind) ← expect 0x30 tagged
    checkExtensions [] extensions
    if !behind.isEmpty || !rest.isEmpty then throw .encoding
  return key

/-- A certificate of the first version has neither a version nor extensions. -/
def isFirstVersion (certificate : List UInt8) : Bool :=
  let checked : Checked Bool := do
    let body ← only 0x30 certificate
    let (signed, rest) ← expect 0x30 body
    let (_, rest) ← expect 0x30 rest
    discard (only 0x03 rest)
    let (_, rest) ← expect 0x02 signed
    let (_, rest) ← expect 0x30 rest
    let (_, rest) ← expect 0x30 rest
    let (_, rest) ← expect 0x30 rest
    let (_, rest) ← expect 0x30 rest
    let (_, rest) ← expect 0x30 rest
    return rest.isEmpty
  checked.toOption.getD false

/-- Whether a certificate can stand for an authority. -/
def isAuthority (certificate : List UInt8) : Bool :=
  match publicKey certificate with
  | .ok _ => true
  | .error .version => isFirstVersion certificate
  | .error _ => false

end Roster.Tls.CertificateForm

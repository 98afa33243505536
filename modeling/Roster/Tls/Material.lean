import Roster.Settings.Basic
import Roster.Tls.Certificate
import Roster.Tls.PrivateKey

/-! # Certificates and keys of a node

A node has a key, a chain of certificates and the certificates of the authorities it trusts.
The key's file must be closed to everyone but its owner, which is checked before any other
file is read. -/

namespace Roster

namespace Tls

/-- Permission bits of a file, without those that are no permissions. -/
def permissions (mode : Nat) : Nat := mode % 512

/-- Nobody but the owner may have any permission. -/
def checkKeyFile (files : Files) (path : String) : Except ConfigError Unit := do
  let file ← (files.read path).mapError (.unreadable path)
  let mode := permissions file.mode
  if mode % 64 ≠ 0 then throw (.tls (.insecureKey mode path))

/-- Every certificate of a file, which must be well-formed to its end. -/
def loadCertificates (files : Files) (path : String) : Except ConfigError (List (List UInt8)) := do
  let file ← (files.read path).mapError (.unreadable path)
  let found := Pem.contents file.content
  if !found.wellFormed then throw (.tls (.malformedFile path))
  match (found.items.filter fun i => i.label == .certificate).map Pem.Item.content with
  | [] => throw (.tls (.noCertificate path))
  | certificates => return certificates

/-- The first private key of a file; what follows it is not looked at. -/
def loadKey (files : Files) (path : String) : Except ConfigError Pem.Item := do
  let file ← (files.read path).mapError (.unreadable path)
  let found := Pem.contents file.content
  match found.items.find? fun i => i.label.isPrivateKey with
  | some key => return key
  | none => throw (.tls (if found.wellFormed then .noPrivateKey path else .malformedFile path))

/-- A node's key must be usable and belong to its first certificate. -/
def checkIdentity (certificates : List (List UInt8)) (key : Pem.Item) : Except TlsFault Unit := do
  let some info := PrivateKey.publicInfo? key | throw .unusableKey
  let certificate := certificates.headD []
  let certified ← (CertificateForm.publicKey certificate).mapError .badCertificate
  if certified ≠ info then throw .keyMismatch

/-- What a secure channel needs before any policy is built. -/
def load (files : Files) (t : TlsSettings) : Except ConfigError Unit := do
  checkKeyFile files t.key
  let authorities ← loadCertificates files t.authority
  if !authorities.all CertificateForm.isAuthority then throw (.tls (.badAuthority t.authority))
  let certificates ← loadCertificates files t.certificate
  let key ← loadKey files t.key
  (checkIdentity certificates key).mapError .tls

end Tls

end Roster

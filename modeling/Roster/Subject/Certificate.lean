import Roster.Subject.Name

/-! # The subject of a certificate

Only the path to the subject is walked: certificate, signed part, an optional version, serial
number, signature algorithm, issuer, validity. What follows the subject is not looked at. -/

namespace Roster

namespace Certificate

/-- Skips an explicit version, which is there only if its tag is the first byte. -/
def skipVersion (bytes : List UInt8) : Except SubjectError (List UInt8) :=
  match bytes with
  | 0xa0 :: _ => (Der.next bytes).map (·.2)
  | _ => .ok bytes

/-- The content of the subject's name element. -/
def subjectContent (der : List UInt8) : Except SubjectError (List UInt8) := do
  let (certificate, _) ← Der.expect 0x30 "certificate" der
  let (signed, _) ← Der.expect 0x30 "tbsCertificate" certificate
  let rest ← skipVersion signed
  let (_, rest) ← Der.expect 0x02 "serial number" rest
  let (_, rest) ← Der.expect 0x30 "signature algorithm" rest
  let (_, rest) ← Der.expect 0x30 "issuer" rest
  let (_, rest) ← Der.expect 0x30 "validity" rest
  let (subject, _) ← Der.expect 0x30 "subject" rest
  return subject

def subject (der : List UInt8) : Except SubjectError DistinguishedName := do
  DistinguishedName.read (← subjectContent der)

end Certificate

/-- What a completed secure handshake tells about the peer; its own certificate comes first. -/
structure PeerSession where
  certificates : List (List UInt8)
  protocol : Option String
  cipher : Option String
  deriving DecidableEq, Repr

namespace PeerSession

def leaf? (s : PeerSession) : Option (List UInt8) := s.certificates.head?

def subject (s : PeerSession) : Except SubjectError DistinguishedName :=
  match s.leaf? with
  | some der => Certificate.subject der
  | none => .error .noCertificate

end PeerSession

end Roster

import Mathlib.Tactic.Common
import Roster.Channel.Authenticator
import Roster.Proofs.Subject.Name

/-!
# Whom a policy of equal subjects trusts

The policy compares the texts of subjects. As texts tell names apart, it trusts exactly the peers
whose leaf certificate has the subject that the policy was made with, and no text that a peer puts
into its own subject can pass for another name.
-/

namespace Roster

theorem Certificate.subject_nonempty {der : List UInt8} {name : DistinguishedName}
    (h : subject der = .ok name) : ∀ r ∈ name, r ≠ [] := by
  obtain ⟨content, -, hread⟩ := bind_eq_ok_iff.mp h
  exact DistinguishedName.read_nonempty hread

theorem PeerSession.subject_eq_ok_iff {session : PeerSession} {name : DistinguishedName} :
    session.subject = .ok name ↔
      ∃ leaf rest, session.certificates = leaf :: rest ∧ Certificate.subject leaf = .ok name := by
  rw [subject, leaf?]
  cases certificates : session.certificates with
  | nil => simp
  | cons leaf rest => simp

namespace Authenticator

theorem sameSubject_trusts_iff {own : DistinguishedName} (nonempty : ∀ r ∈ own, r ≠ [])
    {session : PeerSession} :
    (sameSubject own.text).trusts session = true ↔
      ∃ leaf rest, session.certificates = leaf :: rest ∧ Certificate.subject leaf = .ok own := by
  rw [← PeerSession.subject_eq_ok_iff, trusts]
  cases read : session.subject with
  | error e => simp
  | ok name =>
    obtain ⟨leaf, rest, -, hleaf⟩ := PeerSession.subject_eq_ok_iff.mp read
    constructor
    · intro same
      have same : name.text = own.text := beq_iff_eq.mp same
      rw [DistinguishedName.text_injective (Certificate.subject_nonempty hleaf) nonempty same]
    · rintro ⟨⟩
      exact beq_self_eq_true _

theorem ofCertificateFile_eq_ok_iff {files : Files} {path : String} {a : Authenticator} :
    ofCertificateFile files path = .ok a ↔
      ∃ der rest own, Tls.loadCertificates files path = .ok (der :: rest) ∧
        Certificate.subject der = .ok own ∧ a = .sameSubject own.text := by
  constructor
  · intro h
    obtain ⟨certificates, loaded, h⟩ := bind_eq_ok_iff.mp h
    cases certificates with
    | nil => cases h
    | cons der rest =>
      obtain ⟨own, hown, h⟩ := bind_eq_ok_iff.mp h
      cases h
      exact ⟨der, rest, own, loaded, mapError_eq_ok_iff.mp hown, rfl⟩
  · rintro ⟨der, rest, own, loaded, hown, rfl⟩
    exact bind_eq_ok_iff.mpr ⟨_, loaded, bind_eq_ok_iff.mpr ⟨own, mapError_eq_ok_iff.mpr hown, rfl⟩⟩

/-- Names that are written alike have the same relative names with the same attributes, in the same
order. So the policy of equal subjects, made with a certificate that is at hand or with the first
one of a file, trusts a session if and only if there is a leaf certificate with the very subject of
that certificate. -/
theorem subject_cannot_be_spoofed :
    (∀ bytes bytes' written, (DistinguishedName.read bytes).map DistinguishedName.text = .ok written →
      (DistinguishedName.read bytes').map DistinguishedName.text = .ok written →
      ∃ name, DistinguishedName.read bytes = .ok name ∧ DistinguishedName.read bytes' = .ok name) ∧
    (∀ der own, Certificate.subject der = .ok own → ∀ session,
      (sameSubject own.text).trusts session = true ↔
        ∃ leaf rest, session.certificates = leaf :: rest ∧ Certificate.subject leaf = .ok own) ∧
    ∀ files path a, ofCertificateFile files path = .ok a →
      ∃ der others own, Tls.loadCertificates files path = .ok (der :: others) ∧
        Certificate.subject der = .ok own ∧ ∀ session, a.trusts session = true ↔
          ∃ leaf rest, session.certificates = leaf :: rest ∧ Certificate.subject leaf = .ok own := by
  refine ⟨?_, ?_, ?_⟩
  · intro bytes bytes' written h h'
    exact DistinguishedName.read_eq_of_text_eq h h'
  · intro der own hown session
    exact sameSubject_trusts_iff (Certificate.subject_nonempty hown)
  · intro files path a h
    obtain ⟨der, others, own, loaded, hown, rfl⟩ := ofCertificateFile_eq_ok_iff.mp h
    refine ⟨der, others, own, loaded, hown, fun session => ?_⟩
    exact sameSubject_trusts_iff (Certificate.subject_nonempty hown)

/-- A short element. -/
def element (tag : UInt8) (content : List UInt8) : List UInt8 :=
  tag :: UInt8.ofNat content.length :: content

/-- A relative name of one attribute, whose type is the last arc behind 2.5.4. -/
def relativeName (arc tag : UInt8) (value : String) : List UInt8 :=
  element 0x31 (element 0x30 (element 0x06 [0x55, 4, arc] ++ element tag (Utf8.encode value)))

/-- As much of a certificate as the way to its subject needs. -/
def certificate (name : List UInt8) : List UInt8 :=
  element 0x30 (element 0x30
    (element 0x02 [1] ++ element 0x30 [] ++ element 0x30 [] ++ element 0x30 [] ++ element 0x30 name))

/-- The organization `b` with the common name `a`. -/
def genuine : DistinguishedName := [[⟨[2, 5, 4, 10], .text "b"⟩], [⟨[2, 5, 4, 3], .text "a"⟩]]

def genuineName : List UInt8 := relativeName 10 0x0c "b" ++ relativeName 3 0x0c "a"

/-- The same name in other encodings. -/
def alikeName : List UInt8 := relativeName 10 0x13 "b" ++ relativeName 3 0x16 "a"

/-- The only file, which holds the certificate of the genuine name. -/
def ownFiles : Files := fun path =>
  if path = "own.pem" then
    some ⟨Utf8.encode ("-----BEGIN CERTIFICATE-----\n" ++
      "MCUwIwIBATAAMAAwADAYMQowCAYDVQQKDAFiMQowCAYDVQQDDAFh\n" ++ "-----END CERTIFICATE-----\n"), 0o644⟩
  else none

/-- Peers with the genuine name in other encodings and with a common name that is spelled like the whole of
it, before a policy of the name at hand and before the one that the file gives. -/
theorem crafted_subject_is_not_trusted :
    let alike : PeerSession := ⟨[certificate alikeName, [1, 2, 3]], none, none⟩
    let crafted : PeerSession := ⟨[certificate (relativeName 3 0x0c "a,O=b")], none, none⟩
    Certificate.subject (certificate genuineName) = .ok genuine ∧ genuine.text = "CN=a,O=b" ∧
      (∃ name, DistinguishedName.read genuineName = .ok name ∧ DistinguishedName.read alikeName = .ok name) ∧
      (sameSubject genuine.text).trusts alike = true ∧ (sameSubject genuine.text).trusts crafted = false ∧
      ∃ a, ofCertificateFile ownFiles "own.pem" = .ok a ∧ a.trusts alike = true ∧ a.trusts crafted = false := by
  intro alike crafted
  have own : Certificate.subject (certificate genuineName) = .ok genuine := by decide +kernel
  have same : ∃ leaf rest, alike.certificates = leaf :: rest ∧ Certificate.subject leaf = .ok genuine :=
    ⟨_, _, rfl, by decide +kernel⟩
  have other : ¬ ∃ leaf rest, crafted.certificates = leaf :: rest ∧ Certificate.subject leaf = .ok genuine := by
    rintro ⟨leaf, rest, hleaf, subject⟩
    cases hleaf
    have read : Certificate.subject (certificate (relativeName 3 0x0c "a,O=b")) =
        .ok [[⟨[2, 5, 4, 3], .text "a,O=b"⟩]] := by decide +kernel
    cases read.symm.trans subject
  obtain ⟨written, trusted, ofFile⟩ := subject_cannot_be_spoofed
  refine ⟨own, by decide +kernel, written _ _ "CN=a,O=b" (by decide +kernel) (by decide +kernel),
    (trusted _ _ own _).mpr same, Bool.eq_false_iff.mpr fun trusts => other ((trusted _ _ own _).mp trusts), ?_⟩
  have file : Tls.loadCertificates ownFiles "own.pem" = .ok [certificate genuineName] := by decide +kernel
  have made : ofCertificateFile ownFiles "own.pem" = .ok (sameSubject genuine.text) :=
    ofCertificateFile_eq_ok_iff.mpr ⟨_, _, _, file, own, rfl⟩
  obtain ⟨_, _, _, loaded, read, trusted⟩ := ofFile _ _ _ made
  cases file.symm.trans loaded
  cases own.symm.trans read
  exact ⟨_, made, (trusted _).mpr same, Bool.eq_false_iff.mpr fun trusts => other ((trusted _).mp trusts)⟩

end Authenticator

end Roster

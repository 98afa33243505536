import Roster.File
import Roster.Format.Gate
import Roster.Node
import Roster.Subject.Error
import Roster.Text.Quoted

/-! # Why a configuration is refused

These errors arise while a configuration is read and while channels and trust policies are
built from it, never later. -/

namespace Roster

inductive InvalidSetting where
  | emptyNodeName
  | emptyGroupName
  | typeNeedsFormat (kind : NodeType) (format : FormatVersion)
  | streamOutOfRange (stream : UInt32)
  | incompatible (i : Incompatibility)
  | zeroTimeout
  | tlsSectionMissing
  | tlsMaterialMissing
  | patternMissing
  | patternBlank
  | certificateMissing
  deriving DecidableEq, Repr

def InvalidSetting.message : InvalidSetting → String
  | .emptyNodeName => "node.name must not be empty"
  | .emptyGroupName => "node.group must not be empty"
  | .typeNeedsFormat kind format =>
    s!"node type {kind.label} requires format version {kind.oldestFormat.text} or later, configured {format.text}"
  | .streamOutOfRange stream =>
    s!"stream_version {stream} is outside [{StreamVersion.oldest}, {StreamVersion.newest}]"
  | .incompatible i => i.message
  | .zeroTimeout => "channel timeouts must be non-zero"
  | .tlsSectionMissing => "channel.factory = \"tls\" requires a [channel.tls] section"
  | .tlsMaterialMissing => "tls channel factory requires [channel.tls]"
  | .patternMissing => "dn-match requires authenticator_params with a pattern"
  | .patternBlank => "dn-match requires a non-empty pattern"
  | .certificateMissing => "mirror requires a certificate path or a [channel.tls] cert"

/-- Why a certificate is not accepted. -/
inductive CertificateFault where
  | encoding
  | version
  | signatureAlgorithm
  | criticalExtension
  | extensionValue
  deriving DecidableEq, Repr

def CertificateFault.message : CertificateFault → String
  | .encoding => "BadEncoding"
  | .version => "Other(OtherError(UnsupportedCertVersion))"
  | .signatureAlgorithm => "Other(OtherError(SignatureAlgorithmMismatch))"
  | .criticalExtension => "Other(OtherError(UnsupportedCriticalExtension))"
  | .extensionValue => "Other(OtherError(ExtensionValueInvalid))"

/-- What is wrong with certificates and keys. -/
inductive TlsFault where
  | insecureKey (mode : Nat) (path : String)
  | malformedFile (path : String)
  | noCertificate (path : String)
  | badAuthority (path : String)
  | noPrivateKey (path : String)
  | unreadableSubject (path : String) (cause : SubjectError)
  | unusableKey
  | badCertificate (fault : CertificateFault)
  | keyMismatch
  deriving DecidableEq, Repr

def TlsFault.message : TlsFault → String
  | .insecureKey mode path =>
    let octal := String.ofList (Nat.toDigits 8 mode)
    s!"private key has insecure permissions {octal} (must be 0600 or stricter): {path}"
  | .malformedFile path => s!"failed to parse {path}"
  | .noCertificate path => s!"no certificates found in {path}"
  | .badAuthority path => s!"bad CA certificate in {path}"
  | .noPrivateKey path => s!"no private key found in {path}"
  | .unreadableSubject path cause => s!"{path}: {cause.message}"
  | .unusableKey => "unexpected error: failed to parse private key as RSA, ECDSA, or EdDSA"
  | .badCertificate fault => s!"invalid peer certificate: {fault.message}"
  | .keyMismatch => "keys may not be consistent: KeyMismatch"

inductive ConfigError where
  | invalid (cause : InvalidSetting)
  | unknownImplementation (kind name : String) (available : List String)
  | badPattern (pattern : String)
  | tls (fault : TlsFault)
  | unreadable (path : String) (cause : FileError)
  | unparsable (path : String)
  deriving DecidableEq, Repr

def ConfigError.code : ConfigError → String
  | .invalid _ => "config_invalid"
  | .unknownImplementation .. => "config_unknown_implementation"
  | .badPattern _ => "config_regex"
  | .tls _ => "config_tls"
  | .unreadable .. => "config_io"
  | .unparsable _ => "config_parse"

def ConfigError.message : ConfigError → String
  | .invalid cause => s!"invalid configuration: {cause.message}"
  | .unknownImplementation kind name available =>
    let names := ", ".intercalate available
    s!"unknown {kind} implementation: {name} (available: {names})"
  | .badPattern pattern =>
    let quoted := Quoted.text pattern
    s!"invalid distinguished name pattern {quoted}"
  | .tls fault => s!"TLS material: {fault.message}"
  | .unreadable path cause => s!"failed to read {path}: {cause.message}"
  | .unparsable path => s!"failed to parse {path}"

end Roster

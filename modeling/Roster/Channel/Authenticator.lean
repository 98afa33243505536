import Roster.Channel.Instance
import Roster.Pattern
import Roster.Subject.Certificate
import Roster.Tls.Material

/-! # Trust policies

A policy looks at a completed secure session and says whether the peer is a member of the
group. A session whose subject cannot be read is never trusted. -/

namespace Roster

inductive Authenticator where
  | pattern (source : String) (regex : Regex)
  | sameSubject (subject : String)
  deriving Repr

namespace Authenticator

def name : Authenticator → String
  | pattern .. => "dn-match"
  | sameSubject _ => "mirror"

def accepts : Authenticator → String → Bool
  | pattern _ regex, subject => regex.occursIn subject
  | sameSubject own, subject => subject == own

def trusts (a : Authenticator) (session : PeerSession) : Bool :=
  match session.subject with
  | .ok subject => a.accepts subject.text
  | .error _ => false

/-- Trusts peers whose subject has an occurrence of a pattern. -/
def ofPattern (source : String) : Except ConfigError Authenticator :=
  if (trim source).isEmpty then .error (.invalid .patternBlank)
  else
    match Pattern.parse? source with
    | some regex => .ok (.pattern source regex)
    | none => .error (.badPattern source)

/-- Trusts peers that have the subject of the first certificate of a file. -/
def ofCertificateFile (files : Files) (path : String) : Except ConfigError Authenticator := do
  match ← Tls.loadCertificates files path with
  | [] => throw (.tls (.noCertificate path))
  | der :: _ =>
    let subject ← (Certificate.subject der).mapError fun e => .tls (.unreadableSubject path e)
    return .sameSubject subject.text

/-- A policy that can be chosen by name. -/
inductive Kind where
  | pattern
  | sameSubject
  deriving DecidableEq, Repr

/-- The file whose subject peers must have: the one in the parameters, or the node's own. -/
def certificatePath (i : Instance) : Except ConfigError String :=
  match i.params, i.channel.tls with
  | some path, _ => .ok path
  | none, some tls => .ok tls.certificate
  | none, none => .error (.invalid .certificateMissing)

def Kind.build (files : Files) (i : Instance) : Kind → Except ConfigError Authenticator
  | .pattern =>
    match i.params with
    | some source => ofPattern source
    | none => .error (.invalid .patternMissing)
  | .sameSubject => do ofCertificateFile files (← certificatePath i)

end Authenticator

/-- Policies by name, in order of names. -/
abbrev Authenticators := List (String × Authenticator.Kind)

namespace Authenticators

/-- Names a policy; a name that is taken changes its meaning. -/
def register (name : String) (kind : Authenticator.Kind) : Authenticators → Authenticators
  | [] => [(name, kind)]
  | (n, k) :: rest =>
    if Utf8.Before name n then (name, kind) :: (n, k) :: rest
    else if name = n then (name, kind) :: rest
    else (n, k) :: register name kind rest

def builtin : Authenticators := [("dn-match", .pattern), ("mirror", .sameSubject)]

def names (r : Authenticators) : List String := r.map (·.1)

def build (r : Authenticators) (files : Files) (name : String) (i : Instance) :
    Except ConfigError Authenticator :=
  match r.lookup name with
  | some kind => kind.build files i
  | none => .error (.unknownImplementation "peer authenticator" name r.names)

end Authenticators

end Roster

import Roster.Channel.Authenticator
import Roster.Channel.Error
import Roster.Net.ServerName

/-! # Channel factories

A factory is chosen by name and builds every channel of a node. The secure one needs
certificates and may have a trust policy. -/

namespace Roster

inductive ChannelFactory where
  | plain
  | tls (policy : Option Authenticator)
  deriving Repr

namespace ChannelFactory

def name : ChannelFactory → String
  | plain => "plain"
  | tls _ => "tls"

inductive Kind where
  | plain
  | tls
  deriving DecidableEq, Repr

/-- The policy that the settings name, built with its own parameters. -/
def policy (policies : Authenticators) (files : Files) (i : Instance) (t : TlsSettings) :
    Except ConfigError (Option Authenticator) :=
  match t.authenticator with
  | some name => (policies.build files name (i.withParams t.authenticatorParams)).map some
  | none => .ok none

def Kind.build (policies : Authenticators) (files : Files) (i : Instance) :
    Kind → Except ConfigError ChannelFactory
  | .plain => .ok .plain
  | .tls =>
    match i.channel.tls with
    | none => .error (.invalid .tlsMaterialMissing)
    | some t => do
      Tls.load files t
      return .tls (← policy policies files i t)

/-- Why an address cannot be dialled at all: its port is missing or is no port. -/
def dialFault? (address : String) : Option String :=
  match SocketAddress.parse? address, ServerName.splitLastColon? address with
  | some _, _ => none
  | none, none => some "invalid socket address"
  | none, some (_, port) =>
    match Decimal.parseUInt16 port with
    | .ok _ => none
    | .error _ => some "invalid port value"

/-- Why connecting to an address fails before anything is sent. The secure factory looks at the
name to verify first. -/
def connectFault? (f : ChannelFactory) (address : String) (serverName : Option String) :
    Option ChannelError :=
  let dial := (dialFault? address).map (ChannelError.connect address)
  match f with
  | .plain => dial
  | .tls _ =>
    match ServerName.forAddress address serverName with
    | .error name => some (.handshake address (ServerName.refusal name))
    | .ok _ => dial

end ChannelFactory

/-- Factories by name, in order of names, with the policies they may use. -/
structure ChannelFactories where
  kinds : List (String × ChannelFactory.Kind)
  policies : Authenticators

namespace ChannelFactories

def builtin : ChannelFactories := ⟨[("plain", .plain), ("tls", .tls)], Authenticators.builtin⟩

def names (r : ChannelFactories) : List String := r.kinds.map (·.1)

def build (r : ChannelFactories) (files : Files) (name : String) (i : Instance) :
    Except ConfigError ChannelFactory :=
  match r.kinds.lookup name with
  | some kind => kind.build r.policies files i
  | none => .error (.unknownImplementation "channel factory" name r.names)

/-- The factory of a node's group service. -/
def forSettings (r : ChannelFactories) (files : Files) (s : Settings) : Except ConfigError ChannelFactory :=
  r.build files s.channel.factory (.make .groupService s.channel s.channel.factoryParams)

end ChannelFactories

end Roster

import Roster.Format.Version
import Roster.Json
import Roster.Net.Ip
import Roster.Node

/-! # Settings of a node

Everything but the node's own name and its group has a default. -/

namespace Roster

structure NodeSettings where
  name : String
  group : String
  kind : NodeType
  listen : SocketAddress
  advertiseHost : Option String
  helpers : List String
  dataDir : String
  deriving DecidableEq, Repr

structure MembershipSettings where
  format : FormatVersion
  stream : UInt32
  requireTrusted : Bool
  deriving DecidableEq, Repr

structure TlsSettings where
  authority : String
  certificate : String
  key : String
  serverName : Option String
  authenticator : Option String
  authenticatorParams : Option String
  deriving DecidableEq, Repr

/-- Timeouts are in milliseconds. -/
structure ChannelSettings where
  factory : String
  factoryParams : Option String
  connectTimeout : UInt64
  handshakeTimeout : UInt64
  noDelay : Bool
  tls : Option TlsSettings
  deriving DecidableEq, Repr

structure Settings where
  node : NodeSettings
  membership : MembershipSettings
  channel : ChannelSettings
  deriving DecidableEq, Repr

namespace NodeSettings

def defaultKind : NodeType := .electable

def defaultListen : SocketAddress := ⟨.v4 0 0 0 0, 0, 5001⟩

def defaultDataDir : String := "/var/lib/repgroup"

/-- The host that peers use: the one given, or the address listened on if it names a host. -/
def hostForPeers (n : NodeSettings) : String :=
  match n.advertiseHost with
  | some host => host
  | none => if n.listen.ip.isUnspecified then "localhost" else n.listen.ip.text

end NodeSettings

def MembershipSettings.default : MembershipSettings := ⟨.newest, 7, false⟩

def ChannelSettings.defaultTimeout : UInt64 := 10000

def ChannelSettings.default : ChannelSettings :=
  ⟨"plain", none, ChannelSettings.defaultTimeout, ChannelSettings.defaultTimeout, true, none⟩

/-- Version of this software, which the local node announces. -/
def softwareVersion : String := "0.3.0"

/-- The local node as it announces itself. -/
def Settings.localNode (s : Settings) : Node :=
  .joining s.node.name s.node.kind s.node.hostForPeers s.node.listen.port (some softwareVersion)

def TlsSettings.toJson (t : TlsSettings) : Json :=
  .object [
    ("ca_cert", .text t.authority),
    ("cert", .text t.certificate),
    ("key", .text t.key),
    ("server_name", Json.orNull .text t.serverName),
    ("authenticator", Json.orNull .text t.authenticator),
    ("authenticator_params", Json.orNull .text t.authenticatorParams)]

def Settings.toJson (s : Settings) : Json :=
  .object [
    ("node", .object [
      ("name", .text s.node.name),
      ("group", .text s.node.group),
      ("node_type", .text s.node.kind.text),
      ("listen", .text s.node.listen.text),
      ("advertise_host", Json.orNull .text s.node.advertiseHost),
      ("helpers", .array (s.node.helpers.map .text)),
      ("data_dir", .text s.node.dataDir)]),
    ("membership", .object [
      ("format_version", .nat s.membership.format.code.toNat),
      ("stream_version", .nat s.membership.stream.toNat),
      ("require_trusted_peers", .bool s.membership.requireTrusted)]),
    ("channel", .object [
      ("factory", .text s.channel.factory),
      ("factory_params", Json.orNull .text s.channel.factoryParams),
      ("connect_timeout_ms", .nat s.channel.connectTimeout.toNat),
      ("handshake_timeout_ms", .nat s.channel.handshakeTimeout.toNat),
      ("tcp_nodelay", .bool s.channel.noDelay),
      ("tls", Json.orNull TlsSettings.toJson s.channel.tls)])]

end Roster

import Roster.Settings.Basic
import Roster.Settings.Error
import Roster.Text.Blank
import Roster.Text.Utf8
import Roster.Toml.Parser

/-! # Reading settings

A section is a table; it may also be written as the list of its values in order. Fields
that are not known are passed over, and every field that is there must have its type. -/

namespace Roster

namespace Toml

/-- A section's field by its place and key; nothing if the value is no section at all. -/
def member? (v : Toml) (index : Nat) (key : String) : Option (Option Toml) :=
  match v with
  | .table fields => some (fields.lookup key)
  | .array items => some items[index]?
  | .date => some none
  | _ => none

def asText? : Toml → Option String
  | .text s => some s
  | _ => none

def asBool? : Toml → Option Bool
  | .bool b => some b
  | _ => none

/-- A whole number below a limit. -/
def asNat? (limit : Nat) : Toml → Option Nat
  | .int n => if 0 ≤ n ∧ n < limit then some n.toNat else none
  | _ => none

def asTexts? : Toml → Option (List String)
  | .array items => items.mapM asText?
  | _ => none

def asNodeType? : Toml → Option NodeType
  | .text s => ofName s
  | .table [(name, .table [])] | .table [(name, .array [])] => ofName name
  | _ => none
where
  ofName (s : String) : Option NodeType :=
    [NodeType.electable, .monitor, .secondary].find? (fun t => t.text == s)

def asFormat? (v : Toml) : Option FormatVersion := do
  FormatVersion.ofCode? (UInt16.ofNat (← v.asNat? 65536))

def required {α : Type} (v : Toml) (index : Nat) (key : String) (read : Toml → Option α) : Option α := do
  read (← ← v.member? index key)

def optional {α : Type} (v : Toml) (index : Nat) (key : String) (read : Toml → Option α) :
    Option (Option α) := do
  match ← v.member? index key with
  | some w => return some (← read w)
  | none => return none

def withDefault {α : Type} (v : Toml) (index : Nat) (key : String) (default : α)
    (read : Toml → Option α) : Option α := do
  return (← v.optional index key read).getD default

end Toml

def NodeSettings.ofToml? (v : Toml) : Option NodeSettings := do
  let name ← v.required 0 "name" Toml.asText?
  let group ← v.required 1 "group" Toml.asText?
  let kind ← v.withDefault 2 "node_type" defaultKind Toml.asNodeType?
  let listen ← v.withDefault 3 "listen" defaultListen fun w => do SocketAddress.parse? (← w.asText?)
  let host ← v.optional 4 "advertise_host" Toml.asText?
  let helpers ← v.withDefault 5 "helpers" [] Toml.asTexts?
  let dataDir ← v.withDefault 6 "data_dir" defaultDataDir Toml.asText?
  return ⟨name, group, kind, listen, host, helpers, dataDir⟩

def MembershipSettings.ofToml? (v : Toml) : Option MembershipSettings := do
  let format ← v.withDefault 0 "format_version" default.format Toml.asFormat?
  let stream ← v.withDefault 1 "stream_version" default.stream fun w =>
    (w.asNat? UInt32.size).map UInt32.ofNat
  let requireTrusted ← v.withDefault 2 "require_trusted_peers" false Toml.asBool?
  return ⟨format, stream, requireTrusted⟩

def TlsSettings.ofToml? (v : Toml) : Option TlsSettings := do
  let authority ← v.required 0 "ca_cert" Toml.asText?
  let certificate ← v.required 1 "cert" Toml.asText?
  let key ← v.required 2 "key" Toml.asText?
  let serverName ← v.optional 3 "server_name" Toml.asText?
  let authenticator ← v.optional 4 "authenticator" Toml.asText?
  let params ← v.optional 5 "authenticator_params" Toml.asText?
  return ⟨authority, certificate, key, serverName, authenticator, params⟩

def ChannelSettings.ofToml? (v : Toml) : Option ChannelSettings := do
  let timeout := fun (w : Toml) => (w.asNat? UInt64.size).map UInt64.ofNat
  let factory ← v.withDefault 0 "factory" default.factory Toml.asText?
  let params ← v.optional 1 "factory_params" Toml.asText?
  let connect ← v.withDefault 2 "connect_timeout_ms" defaultTimeout timeout
  let handshake ← v.withDefault 3 "handshake_timeout_ms" defaultTimeout timeout
  let noDelay ← v.withDefault 4 "tcp_nodelay" true Toml.asBool?
  let tls ← v.optional 5 "tls" TlsSettings.ofToml?
  return ⟨factory, params, connect, handshake, noDelay, tls⟩

namespace Settings

def ofToml? (v : Toml) : Option Settings := do
  let node ← v.required 0 "node" NodeSettings.ofToml?
  let membership ← v.withDefault 1 "membership" .default MembershipSettings.ofToml?
  let channel ← v.withDefault 2 "channel" .default ChannelSettings.ofToml?
  return ⟨node, membership, channel⟩

/-- The first rule that the settings break. The local node must be able to read its own group. -/
def validate (s : Settings) : Except InvalidSetting Unit := do
  if (trim s.node.name).isEmpty then throw .emptyNodeName
  if (trim s.node.group).isEmpty then throw .emptyGroupName
  if ¬ s.node.kind.oldestFormat ≤ s.membership.format then
    throw (.typeNeedsFormat s.node.kind s.membership.format)
  if s.membership.stream < StreamVersion.oldest ∨ StreamVersion.newest < s.membership.stream then
    throw (.streamOutOfRange s.membership.stream)
  (Gate.check s.membership.format s.membership.stream).mapError .incompatible
  if s.channel.connectTimeout = 0 ∨ s.channel.handshakeTimeout = 0 then throw .zeroTimeout
  if s.channel.factory = "tls" ∧ s.channel.tls.isNone then throw .tlsSectionMissing

/-- Reads and checks settings; `source` names where the text is from. -/
def parse (source text : String) : Except ConfigError Settings := do
  match (Toml.parse? text).bind ofToml? with
  | none => throw (.unparsable source)
  | some s =>
    s.validate.mapError .invalid
    return s

/-- Name of a text that was given directly. -/
def inlineSource : String := "<inline>"

def load (files : Files) (path : String) : Except ConfigError Settings := do
  let file ← (files.read path).mapError (.unreadable path)
  match Utf8.decode? file.content with
  | some text => parse path text
  | none => throw (.unreadable path .notUtf8)

end Settings

end Roster

import Roster.Settings.Basic
import Roster.Text.Blank

/-! # What channels and trust policies are built from -/

namespace Roster

/-- What a channel is used for. -/
inductive Purpose where
  | replicaStream
  | election
  | groupService
  deriving DecidableEq, Repr

def Purpose.text : Purpose → String
  | replicaStream => "replica-stream"
  | election => "election"
  | groupService => "group-service"

/-- The purpose and the channel settings are shared by everything that is built together; the
parameters belong to one implementation, and a blank text stands for none. -/
structure Instance where
  purpose : Purpose
  channel : ChannelSettings
  params : Option String
  deriving DecidableEq, Repr

namespace Instance

def paramsOf (params : Option String) : Option String := params.filter fun p => !(trim p).isEmpty

def make (purpose : Purpose) (channel : ChannelSettings) (params : Option String) : Instance :=
  ⟨purpose, channel, paramsOf params⟩

def withParams (i : Instance) (params : Option String) : Instance := make i.purpose i.channel params

end Instance

end Roster

import Roster.Admission.Error
import Roster.Registry.Basic
import Roster.Settings.Basic

/-! # How a node comes by its group

A node goes on with the group it stored. Without one it asks its helpers in turn and takes the
first group it is given; a helper that refuses it for its versions ends the search. Only a node
that has no helpers starts a group of its own. The group is then declared at the configured
format, and the node adds itself if no record has its name. -/

namespace Roster

inductive StartupError where
  | unreadableStore (cause : StoreError)
  | foreignGroup (stored configured : String)
  | refused (address : String) (cause : AdmissionError)
  | notStored (cause : StoreError)
  | noHelper (group : String)
  | notConverted (cause : UpdateError)
  | notAdded (cause : UpdateError)
  deriving DecidableEq, Repr

/-- The text of an error and of each of its causes, the outermost first. -/
def StoreError.texts (e : StoreError) : List String :=
  match e with
  | .unusable _ cause => [e.message, cause.message]
  | .corrupt cause => [e.message, cause.message]

def UpdateError.texts (e : UpdateError) : List String :=
  match e with
  | .edit _ => [e.message]
  | .store cause => e.message :: cause.texts

namespace StartupError

def texts : StartupError → List String
  | .unreadableStore cause => "failed to load stored group" :: cause.texts
  | .foreignGroup stored configured =>
    [s!"stored group is {stored} but this node is configured for {configured}"]
  | .refused address cause => [s!"helper {address} refused to share the group", cause.message]
  | .notStored cause => "failed to store fetched group" :: cause.texts
  | .noHelper group => [s!"no helper could provide group {group}"]
  | .notConverted cause => "cannot convert group to the configured format version" :: cause.texts
  | .notAdded cause => "failed to add local node to the group" :: cause.texts

def message (e : StartupError) : String := ": ".intercalate e.texts

end StartupError

abbrev StartupResult := Except (Fault StartupError)

namespace Startup

/-- What became of a search among helpers. -/
inductive Search where
  | found (group : Group)
  | refused (address : String) (cause : AdmissionError)
  | nobody
  deriving DecidableEq

def isRefusal : AdmissionError → Bool
  | .refused .. => true
  | _ => false

/-- Asks helpers in turn; the addresses that were dialed come back in order. -/
def search {W : Type} (ask : String → W → Except AdmissionError Group × W) :
    List String → W → Search × List String × W
  | [], w => (.nobody, [], w)
  | address :: rest, w =>
    match ask address w with
    | (.ok group, after) => (.found group, [address], after)
    | (.error e, after) =>
      if isRefusal e then (.refused address e, [address], after)
      else
        let (result, dialed, last) := search ask rest after
        (result, address :: dialed, last)

/-- Declares the group at the configured format. -/
def convert (s : Settings) (r : Registry) : StartupResult Registry × MemoryStore :=
  if r.current.format = s.membership.format then (.ok r, r.store)
  else
    match r.convert s.membership.format with
    | (.ok _, after) => (.ok after, after.store)
    | (.error fault, after) => (.error (fault.map .notConverted), after.store)

/-- Adds the local node unless a record has its name. -/
def addSelf (s : Settings) (r : Registry) : StartupResult Registry × MemoryStore :=
  match r.current.find? s.node.name with
  | some _ => (.ok r, r.store)
  | none =>
    match r.add s.localNode with
    | (.ok _, after) => (.ok after, after.store)
    | (.error fault, after) => (.error (fault.map .notAdded), after.store)

/-- Publishes a group for this node. -/
def adopt (s : Settings) (g : Group) (store : MemoryStore) : StartupResult Registry × MemoryStore :=
  match convert s (.make g store) with
  | (.ok r, _) => addSelf s r
  | (.error fault, after) => (.error fault, after)

/-- What a start did: the addresses dialed, and the store and the world it left. -/
structure Report (W : Type) where
  result : StartupResult Registry
  store : MemoryStore
  dialed : List String
  world : W

/-- Goes on with a stored group, which must be the configured one. -/
def resume (s : Settings) (g : Group) (store : MemoryStore) : StartupResult Registry × MemoryStore :=
  if g.name = s.node.group then adopt s g store
  else (.error (.refused (.foreignGroup g.name s.node.group)), store)

/-- Starts without a stored group, from the outcome of the search among helpers. -/
def commence (s : Settings) (fresh : Uuid) (search : Search) (store : MemoryStore) :
    StartupResult Registry × MemoryStore :=
  match search with
  | .found g =>
    match store.save g with
    | (.ok (), saved) => adopt s g saved
    | (.error e, after) => (.error (.refused (.notStored e)), after)
  | .refused address e => (.error (.refused (.refused address e)), store)
  | .nobody =>
    if s.node.helpers.isEmpty then adopt s (.empty s.node.group fresh s.membership.format) store
    else (.error (.refused (.noHelper s.node.group)), store)

/-- Starts a node; `fresh` names the group if a new one is created. -/
def run {W : Type} (ask : String → W → Except AdmissionError Group × W) (s : Settings) (fresh : Uuid)
    (store : MemoryStore) (world : W) : Report W :=
  match store.load with
  | .error e => ⟨.error (.refused (.unreadableStore e)), store, [], world⟩
  | .ok (some g) =>
    let (result, after) := resume s g store
    ⟨result, after, [], world⟩
  | .ok none =>
    let (found, dialed, last) := search ask s.node.helpers world
    let (result, after) := commence s fresh found store
    ⟨result, after, dialed, last⟩

end Startup

end Roster

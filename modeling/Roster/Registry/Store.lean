import Roster.File
import Roster.Group.Codec

/-! # Keeping the last snapshot

A store keeps one group as its stream. What is loaded was saved whole: a save that fails leaves
what was stored before. -/

namespace Roster

inductive StoreError where
  | unusable (path : String) (cause : FileError)
  | corrupt (cause : StreamError)
  deriving DecidableEq, Repr

def StoreError.code : StoreError → String
  | .unusable .. => "store_io"
  | .corrupt _ => "store_format"

def StoreError.message : StoreError → String
  | .unusable path cause => s!"snapshot I/O on {path}: {cause.message}"
  | .corrupt cause => s!"stored snapshot is corrupt: {cause.message}"

/-- A store in memory. `faults` says of the saves to come, the next one first, whether they fail;
behind the last of them no save fails. -/
structure MemoryStore where
  stream : Option String
  faults : List Bool
  deriving DecidableEq, Repr

namespace MemoryStore

def empty : MemoryStore := ⟨none, []⟩

/-- The path that failures name. -/
def path : String := "store"

def load (s : MemoryStore) : Except StoreError (Option Group) :=
  match s.stream with
  | none => .ok none
  | some stream => ((Group.ofStream stream).mapError .corrupt).map some

def save (g : Group) (s : MemoryStore) : Except StoreError Unit × MemoryStore :=
  let after := { s with faults := s.faults.drop 1 }
  if s.faults.headD false then (.error (.unusable path .diskFull), after)
  else
    match g.stream with
    | .ok stream => (.ok (), { after with stream := some stream })
    | .error e => (.error (.corrupt e), after)

end MemoryStore

end Roster

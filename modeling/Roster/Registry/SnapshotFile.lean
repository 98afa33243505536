import Roster.Registry.Store
import Roster.Text.Blank

/-! # A snapshot in a file

The stream is one line of a file in the data directory. A save writes a draft beside the file and
then renames it, so the file holds either the old stream or the new one. -/

namespace Roster

/-- What stands at a path. -/
inductive Entry where
  | file (content : List UInt8)
  | directory
  deriving DecidableEq, Repr

/-- A data directory: not there yet, a plain file in its place, or a directory with what stands at
the snapshot's name and at the draft's. -/
inductive DataDirectory where
  | missing
  | obstructed
  | present (snapshot draft : Option Entry)
  deriving DecidableEq, Repr

/-- Joins a path to a directory; an absolute path stays as it is. -/
def joinPath (directory path : String) : String :=
  if path.startsWith "/" then path
  else if directory.isEmpty || directory.endsWith "/" then directory ++ path
  else directory ++ "/" ++ path

namespace SnapshotFile

def fileName : String := "group.hex"

def draftName : String := "group.hex.tmp"

def path (directory : String) : String := joinPath directory fileName

/-- What a stored group's file holds. -/
def content (stream : String) : List UInt8 := Utf8.encode (stream ++ "\n")

/-- The text of the file; nothing if there is no file. -/
def read : DataDirectory → Except FileError (Option String)
  | .missing => .ok none
  | .obstructed => .error .notDirectory
  | .present snapshot _ =>
    match snapshot with
    | none => .ok none
    | some .directory => .error .isDirectory
    | some (.file bytes) =>
      match Utf8.decode? bytes with
      | some text => .ok (some text)
      | none => .error .notUtf8

/-- Blanks around the stream are passed over. -/
def load (directory : String) (d : DataDirectory) : Except StoreError (Option Group) :=
  match read d with
  | .error e => .error (.unusable (path directory) e)
  | .ok none => .ok none
  | .ok (some text) => ((Group.ofStream (trim text)).mapError .corrupt).map some

/-- Puts a stream where the old one was. -/
def replace (stream : String) : DataDirectory → Except FileError Unit × DataDirectory
  | .obstructed => (.error .alreadyExists, .obstructed)
  | .missing => (.ok (), .present (some (.file (content stream))) none)
  | .present snapshot draft =>
    match draft, snapshot with
    | some .directory, _ => (.error .isDirectory, .present snapshot draft)
    | _, some .directory =>
      (.error .isDirectory, .present snapshot (some (.file (content stream))))
    | _, _ => (.ok (), .present (some (.file (content stream))) none)

/-- A group that cannot be written touches nothing. -/
def save (directory : String) (g : Group) (d : DataDirectory) : Except StoreError Unit × DataDirectory :=
  match g.stream with
  | .error e => (.error (.corrupt e), d)
  | .ok stream =>
    let (result, after) := replace stream d
    (result.mapError (.unusable (path directory)), after)

end SnapshotFile

end Roster

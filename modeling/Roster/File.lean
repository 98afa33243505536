/-! # Files as the library sees them -/

namespace Roster

inductive FileError where
  | notFound
  | alreadyExists
  | notDirectory
  | isDirectory
  | notUtf8
  | diskFull
  deriving DecidableEq, Repr

def FileError.message : FileError → String
  | .notFound => "No such file or directory (os error 2)"
  | .alreadyExists => "File exists (os error 17)"
  | .notDirectory => "Not a directory (os error 20)"
  | .isDirectory => "Is a directory (os error 21)"
  | .notUtf8 => "stream did not contain valid UTF-8"
  | .diskFull => "disk full"

/-- A file's content and its permission bits. -/
structure File where
  content : List UInt8
  mode : Nat
  deriving DecidableEq, Repr

/-- The files that can be read, by path. -/
abbrev Files := String → Option File

def Files.read (files : Files) (path : String) : Except FileError File :=
  match files path with
  | some f => .ok f
  | none => .error .notFound

end Roster

import Roster.Toml

/-! # Building a document from its lines

A table may be opened once by a header. A header may pass through tables that other headers
or its own parents implied, dotted keys may only pass through tables that dotted keys made,
and a header that opens a list of tables adds a table to it. -/

namespace Roster.Toml

/-- How a table came to be. -/
inductive Origin where
  | header
  | implied
  | dotted
  deriving DecidableEq, Repr

/-- A document under construction; the tables of a list are held last first. -/
inductive Entry where
  | value (v : Toml)
  | table (origin : Origin) (fields : List (String × Entry))
  | tables (items : List (Origin × List (String × Entry)))

abbrev Fields := List (String × Entry)

namespace Fields

def find? (fs : Fields) (key : String) : Option Entry := fs.lookup key

/-- Replaces the field of a key, or adds it behind the others. -/
def put (key : String) (e : Entry) : Fields → Fields
  | [] => [(key, e)]
  | (k, old) :: rest => if k = key then (k, e) :: rest else (k, old) :: put key e rest

end Fields

/-- A table with its origin. -/
abbrev Place := Origin × Fields

/-- Changes the table that a path leads to. Missing tables on the way are made with the given
origin; a list of tables stands for its last one. -/
def descend (missing : Origin) (change : Place → Option Place) : List String → Place → Option Place
  | [], place => change place
  | key :: path, (origin, fields) =>
    match Fields.find? fields key with
    | none => do
      let (o, inner) ← descend missing change path (missing, [])
      return (origin, Fields.put key (.table o inner) fields)
    | some (.value _) => none
    | some (.tables []) => none
    | some (.tables (last :: before)) => do
      let last ← descend missing change path last
      return (origin, Fields.put key (.tables (last :: before)) fields)
    | some (.table o inner) => do
      if missing = .dotted ∧ o = .header then none
      let (o, inner) ← descend missing change path (o, inner)
      return (origin, Fields.put key (.table o inner) fields)

/-- Splits a path into the way and the last key. -/
def splitPath? (path : List String) : Option (List String × String) :=
  match path.reverse with
  | key :: way => some (way.reverse, key)
  | [] => none

/-- Adds a value to a table under a key that is still free. -/
def addValue (dotted : Bool) (key : String) (v : Toml) : Place → Option Place
  | (origin, fields) =>
    if dotted ≠ (origin = .dotted) then none
    else if (Fields.find? fields key).isSome then none
    else some (origin, Fields.put key (.value v) fields)

/-- Adds a value under a key that may be dotted. -/
def assign (path : List String) (v : Toml) (place : Place) : Option Place := do
  let (way, key) ← splitPath? path
  descend .dotted (addValue (!way.isEmpty) key v) way place

/-- Opens a table: a new one, or one that was only implied. -/
def openTable (key : String) : Place → Option Place
  | (origin, fields) =>
    match Fields.find? fields key with
    | none => some (origin, Fields.put key (.table .header []) fields)
    | some (.table .implied inner) => some (origin, Fields.put key (.table .header inner) fields)
    | _ => none

/-- Adds a table to a list of tables. -/
def openItem (key : String) : Place → Option Place
  | (origin, fields) =>
    match Fields.find? fields key with
    | none => some (origin, Fields.put key (.tables [(.header, [])]) fields)
    | some (.tables items) => some (origin, Fields.put key (.tables ((.header, []) :: items)) fields)
    | _ => none

mutual

def Entry.toToml : Entry → Toml
  | .value v => v
  | .table _ fields => .table (fieldsToToml fields)
  | .tables items => .array (itemsToToml items [])

def fieldsToToml : List (String × Entry) → List (String × Toml)
  | [] => []
  | (k, e) :: rest => (k, e.toToml) :: fieldsToToml rest

def itemsToToml : List (Origin × List (String × Entry)) → List Toml → List Toml
  | [], done => done
  | (_, fields) :: rest, done => itemsToToml rest (.table (fieldsToToml fields) :: done)

end

/-- A document and the path of the table that is open. -/
structure Document where
  root : Place
  current : List String

namespace Document

def empty : Document := ⟨(.header, []), []⟩

/-- Whether the table at a path can be passed through by headers. -/
def header (d : Document) (path : List String) : Option Document := do
  let (way, key) ← splitPath? path
  return ⟨← descend .implied (openTable key) way d.root, path⟩

def item (d : Document) (path : List String) : Option Document := do
  let (way, key) ← splitPath? path
  return ⟨← descend .implied (openItem key) way d.root, path⟩

def value (d : Document) (path : List String) (v : Toml) : Option Document := do
  return { d with root := ← descend .implied (assign path v) d.current d.root }

def toToml (d : Document) : Toml := .table (fieldsToToml d.root.2)

end Document

end Roster.Toml

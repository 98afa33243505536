import Roster.Toml.Document
import Roster.Toml.Scalar

/-! # Reading configuration files

A file is read line by line: a header opens a table, any other line gives a value to a key.
A file that breaks a rule is refused as a whole. -/

namespace Roster.Toml

def isBareKeyChar (c : Char) : Bool := c.isAlphanum || c == '_' || c == '-'

def simpleKey? (cs : List Char) : Option (String × List Char) :=
  match cs with
  | '"' :: rest => quoted? rest.length [] rest
  | '\'' :: rest => literal? rest
  | _ =>
    let key := cs.takeWhile isBareKeyChar
    if key.isEmpty then none else some (String.ofList key, cs.drop key.length)

/-- Nesting at which a file is refused: lists and tables in one value, or keys in one path. -/
def nestLimit : Nat := 80

/-- A key and the keys behind its dots, less than the limit; blanks around dots do not count. -/
def path? (fuel : Nat) (done : List String) (cs : List Char) : Option (List String × List Char) := do
  let (key, rest) ← simpleKey? (dropSpace cs)
  let rest := dropSpace rest
  match fuel, rest with
  | fuel + 1, '.' :: rest => path? fuel (key :: done) rest
  | _, _ =>
    let path := (key :: done).reverse
    if path.length < nestLimit then some (path, rest) else none

/-- The rest of a comment's line. -/
def dropComment : List Char → List Char
  | '#' :: rest => rest.dropWhile isPrintable
  | cs => cs

/-- Blanks, comments and line ends between the items of a list. -/
def dropFiller : Nat → List Char → List Char
  | 0, cs => cs
  | fuel + 1, cs =>
    let after := dropComment (dropSpace cs)
    match newline? after with
    | some rest => dropFiller fuel rest
    | none => if after.length < cs.length then dropFiller fuel after else cs

mutual

/-- A value with less than `depth` levels of lists and tables, followed by less than `fuel` items. -/
def value? (depth fuel : Nat) (cs : List Char) : Option (Toml × List Char) :=
  match depth, cs with
  | depth + 2, '[' :: rest => items? (depth + 1) fuel [] rest
  | depth + 2, '{' :: rest =>
    match dropSpace rest with
    | '}' :: rest => some (.table [], rest)
    | rest => fields? (depth + 1) fuel (.header, []) rest
  | _, '[' :: _ => none
  | _, '{' :: _ => none
  | _, cs => scalar? cs
  termination_by (depth, fuel + 1)

/-- The rest of a list behind the items already read, last first. -/
def items? (depth fuel : Nat) (done : List Toml) (cs : List Char) : Option (Toml × List Char) :=
  match fuel with
  | 0 => none
  | fuel + 1 =>
    match dropFiller cs.length cs with
    | ']' :: rest => some (.array done.reverse, rest)
    | cs => do
      let (v, rest) ← value? depth cs.length cs
      match dropFiller rest.length rest with
      | ',' :: rest => items? depth fuel (v :: done) rest
      | ']' :: rest => return (.array (v :: done).reverse, rest)
      | _ => none
  termination_by (depth + 1, fuel)

/-- The rest of a table in braces behind the fields already read. -/
def fields? (depth fuel : Nat) (done : Place) (cs : List Char) : Option (Toml × List Char) :=
  match fuel with
  | 0 => none
  | fuel + 1 => do
    let (path, rest) ← path? cs.length [] cs
    let rest ← char? '=' rest
    let (v, rest) ← value? depth rest.length (dropSpace rest)
    let done ← assign path v done
    match dropSpace rest with
    | ',' :: rest => fields? depth fuel done rest
    | '}' :: rest => return (.table (fieldsToToml done.2), rest)
    | _ => none
  termination_by (depth + 1, fuel)

end

/-- The end of a line behind its content. -/
def lineEnd? (cs : List Char) : Option (List Char) :=
  match dropComment (dropSpace cs) with
  | [] => some []
  | rest => newline? rest

/-- Reads one line that is not blank. -/
def line? (d : Document) (cs : List Char) : Option (Document × List Char) :=
  match cs with
  | '[' :: '[' :: rest => do
    let (path, rest) ← path? rest.length [] rest
    let rest ← char? ']' (← char? ']' rest)
    return (← d.item path, ← lineEnd? rest)
  | '[' :: rest => do
    let (path, rest) ← path? rest.length [] rest
    return (← d.header path, ← lineEnd? (← char? ']' rest))
  | _ => do
    let (path, rest) ← path? cs.length [] cs
    let rest := dropSpace (← char? '=' rest)
    let (v, rest) ← value? nestLimit rest.length rest
    return (← d.value path v, ← lineEnd? rest)

/-- Reads the lines that are left, at most `fuel` of them. -/
def lines? (fuel : Nat) (d : Document) (cs : List Char) : Option Document :=
  match dropFiller cs.length cs with
  | [] => some d
  | c :: rest =>
    match fuel with
    | 0 => none
    | fuel + 1 => do
      let (d, rest) ← line? d (c :: rest)
      lines? fuel d rest

/-- A mark at the very start of a file does not count. -/
def dropMark : List Char → List Char
  | '\ufeff' :: rest => rest
  | cs => cs

def parse? (file : String) : Option Toml :=
  let cs := dropMark file.toList
  (lines? cs.length .empty cs).map Document.toToml

end Roster.Toml

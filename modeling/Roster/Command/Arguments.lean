import Roster.Text.Decimal

/-! # Words of a command line

A command takes at most one operand, and options whose names follow two dashes. An option is a
flag or takes one value, which stands behind an equals sign or is the next word. A word with a
dash in front is never such a next word; after `--` every word is an operand. A value is looked
at only when the next option, the next operand or the end arrives. -/

namespace Roster

/-- Asking for help or for the version ends the reading as well. -/
inductive UsageError where
  | unknownArgument
  | unknownCommand
  | missingCommand
  | missingArgument
  | missingValue
  | unexpectedValue
  | invalidValue
  | repeatedArgument
  | helpRequested
  | versionRequested
  deriving DecidableEq, Repr

namespace UsageError

def code : UsageError → String
  | unknownArgument => "UnknownArgument"
  | unknownCommand => "InvalidSubcommand"
  | missingCommand => "DisplayHelpOnMissingArgumentOrSubcommand"
  | missingArgument => "MissingRequiredArgument"
  | missingValue => "InvalidValue"
  | unexpectedValue => "TooManyValues"
  | invalidValue => "ValueValidation"
  | repeatedArgument => "ArgumentConflict"
  | helpRequested => "DisplayHelp"
  | versionRequested => "DisplayVersion"

end UsageError

/-- What a value has to be; a number stays below its limit. -/
inductive ValueRule where
  | text
  | path
  | number (limit : Nat)
  deriving DecidableEq, Repr

inductive Value where
  | set
  | text (s : String)
  | number (n : Nat)
  deriving DecidableEq, Repr

namespace ValueRule

/-- A sign may stand in front; the only number below zero that is no fault is minus zero. -/
def numberBelow? (limit : Nat) (s : String) : Option Nat :=
  match s.toList with
  | '-' :: d :: digits => if (d :: digits).all (· == '0') then some 0 else none
  | _ => (Decimal.parse limit s).toOption

def read (rule : ValueRule) (s : String) : Except UsageError Value :=
  match rule with
  | text => .ok (.text s)
  | path => if s.isEmpty then .error .missingValue else .ok (.text s)
  | number limit =>
    match numberBelow? limit s with
    | some n => .ok (.number n)
    | none => .error .invalidValue

end ValueRule

/-- An option without a rule for its value is a flag. -/
structure OptionRule where
  name : String
  value : Option ValueRule
  deriving DecidableEq, Repr

structure Usage where
  operand : Option String
  options : List OptionRule
  deriving DecidableEq, Repr

/-- Values by the names of their options and operands. -/
abbrev Given := List (String × Value)

namespace Given

def text? (g : Given) (name : String) : Option String :=
  match g.lookup name with
  | some (.text s) => some s
  | _ => none

def number? (g : Given) (name : String) : Option Nat :=
  match g.lookup name with
  | some (.number n) => some n
  | _ => none

def flag (g : Given) (name : String) : Bool := (g.lookup name).isSome

def need {α : Type} : Option α → Except UsageError α
  | some a => .ok a
  | none => .error .missingArgument

end Given

/-- An argument whose value is not yet looked at, or is still to come. -/
structure Unsettled where
  name : String
  rule : ValueRule
  value : Option String
  deriving DecidableEq, Repr

/-- How far the words have been read. -/
structure Reading where
  given : Given
  pending : Option Unsettled
  operandSeen : Bool
  dashesSeen : Bool
  deriving DecidableEq, Repr

namespace Reading

def start : Reading := ⟨[], none, false, false⟩

/-- Records a value unless its argument has one. -/
def give (r : Reading) (name : String) (v : Except UsageError Value) : Except UsageError Reading := do
  if (r.given.lookup name).isSome then throw .repeatedArgument
  return { r with given := (name, ← v) :: r.given }

/-- Completes the pending argument. -/
def settle (r : Reading) : Except UsageError Reading :=
  match r.pending with
  | none => .ok r
  | some ⟨_, _, none⟩ => .error .missingValue
  | some ⟨name, rule, some s⟩ => give { r with pending := none } name (rule.read s)

def help (r : Reading) : Except UsageError Reading := do
  let _ ← r.settle
  throw .helpRequested

def option (usage : Usage) (r : Reading) (name : String) (value : Option String) :
    Except UsageError Reading := do
  let rules := ⟨"help", none⟩ :: usage.options
  match rules.find? (fun o => o.name == name) with
  | none => throw .unknownArgument
  | some ⟨_, none⟩ =>
    if value.isSome then throw .unexpectedValue
    if name == "help" then r.help else (← r.settle).give name (.ok .set)
  | some ⟨_, some rule⟩ =>
    let settled ← r.settle
    match value with
    | some s => settled.give name (rule.read s)
    | none => return { settled with pending := some ⟨name, rule, none⟩ }

def operand (usage : Usage) (r : Reading) (s : String) : Except UsageError Reading := do
  match usage.operand, r.operandSeen with
  | some name, false =>
    return { ← r.settle with pending := some ⟨name, .text, some s⟩, operandSeen := true }
  | _, _ => throw .unknownArgument

/-- A word without a dash is the value of the option before it, or else an operand. -/
def plain (usage : Usage) (r : Reading) (s : String) : Except UsageError Reading :=
  match r.pending with
  | some ⟨name, rule, none⟩ => .ok { r with pending := some ⟨name, rule, some s⟩ }
  | _ => r.operand usage s

/-- Splits what follows two dashes at the first equals sign. -/
def splitValue (cs : List Char) : String × Option String :=
  let name := String.ofList (cs.takeWhile (· != '='))
  match cs.dropWhile (· != '=') with
  | [] => (name, none)
  | _ :: value => (name, some (String.ofList value))

def step (usage : Usage) (r : Reading) (s : String) : Except UsageError Reading :=
  if r.dashesSeen then r.operand usage s
  else
    match s.toList with
    | ['-', '-'] => .ok { r with dashesSeen := true }
    | '-' :: '-' :: cs => let (name, value) := splitValue cs; r.option usage name value
    | '-' :: c :: _ => if c == 'h' then r.help else .error .unknownArgument
    | _ => r.plain usage s

end Reading

def Usage.read (usage : Usage) (words : List String) : Except UsageError Given := do
  let r ← words.foldlM (Reading.step usage) .start
  return (← r.settle).given

end Roster

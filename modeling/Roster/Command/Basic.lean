import Roster.Command.Arguments

/-! # Commands for operators

The first word names the command and the words behind it are its arguments. -/

namespace Roster

/-- Format versions are still unchecked numbers here. -/
inductive Command where
  | versions (json : Bool)
  | decode (stream : String) (target : Option UInt16) (json : Bool)
  | check (stream : UInt32) (format : UInt16)
  | convert (stream : String) (target : UInt16)
  | status (address : String) (config : Option String) (json : Bool)
  deriving DecidableEq, Repr

inductive CommandName where
  | versions
  | decode
  | check
  | convert
  | status
  deriving DecidableEq, Repr

namespace CommandName

def text : CommandName → String
  | versions => "versions"
  | decode => "decode"
  | check => "check"
  | convert => "convert"
  | status => "status"

def all : List CommandName := [versions, decode, check, convert, status]

def ofText? (s : String) : Option CommandName := all.find? fun c => c.text == s

def format : ValueRule := .number UInt16.size

def usage : CommandName → Usage
  | versions => ⟨none, [⟨"json", none⟩]⟩
  | decode => ⟨some "hex", [⟨"target", some format⟩, ⟨"json", none⟩]⟩
  | check => ⟨none, [⟨"stream", some (.number UInt32.size)⟩, ⟨"format", some format⟩]⟩
  | convert => ⟨some "hex", [⟨"to", some format⟩]⟩
  | status => ⟨none, [⟨"addr", some .text⟩, ⟨"config", some .path⟩, ⟨"json", none⟩]⟩

end CommandName

namespace Command

def ofGiven (name : CommandName) (given : Given) : Except UsageError Command := do
  match name with
  | .versions => return .versions (given.flag "json")
  | .decode =>
    let target := (given.number? "target").map UInt16.ofNat
    return .decode (← Given.need (given.text? "hex")) target (given.flag "json")
  | .check =>
    let stream ← Given.need (given.number? "stream")
    return .check (UInt32.ofNat stream) (UInt16.ofNat (← Given.need (given.number? "format")))
  | .convert =>
    let stream ← Given.need (given.text? "hex")
    return .convert stream (UInt16.ofNat (← Given.need (given.number? "to")))
  | .status =>
    let address ← Given.need (given.text? "addr")
    return .status address (given.text? "config") (given.flag "json")

/-- What is wrong with a line whose first word names no command. -/
def faultOf (word : String) : UsageError :=
  match word.toList with
  | '-' :: '-' :: cs =>
    match Reading.splitValue cs with
    | ("help", none) => .helpRequested
    | ("version", none) => .versionRequested
    | ("help", some _) | ("version", some _) => .unexpectedValue
    | _ => .unknownArgument
  | '-' :: 'h' :: _ => .helpRequested
  | '-' :: 'V' :: _ => .versionRequested
  | '-' :: _ :: _ => .unknownArgument
  | _ => .unknownCommand

/-- Help is given on the whole program or on one command. -/
def helpFault : List String → UsageError
  | [] => .helpRequested
  | [topic] =>
    if topic == "help" || (CommandName.ofText? topic).isSome then .helpRequested
    else .unknownCommand
  | _ => .unknownCommand

/-- A command's name no longer counts behind two dashes. -/
def faultBehindDashes : List String → UsageError
  | [] => .missingCommand
  | word :: _ =>
    if word == "help" || (CommandName.ofText? word).isSome then .unknownArgument
    else .unknownCommand

def parse : List String → Except UsageError Command
  | [] => .error .missingCommand
  | word :: rest =>
    match CommandName.ofText? word with
    | some name => do ofGiven name (← name.usage.read rest)
    | none =>
      if word == "help" then .error (helpFault rest)
      else if word == "--" then .error (faultBehindDashes rest)
      else .error (faultOf word)

end Command

end Roster

import Roster.Command.Output

/-! # The operators' program

Prints what a command gives on standard output, and why it failed on standard error. The exit
code is 1 for a command that failed and 2 for a line that is no command. -/

open Roster

def main (args : List String) : IO UInt32 := do
  match Command.parse args with
  | .ok command =>
    match command.output with
    | .ok text =>
      IO.println text
      return 0
    | .error e =>
      IO.eprintln s!"Error: {e.message}"
      return 1
  | .error e =>
    IO.eprintln s!"error: {e.code}"
    return if e == .helpRequested || e == .versionRequested then 0 else 2

import Roster.Pattern.Automaton
import Roster.Pattern.Meaning
import Roster.Pattern.Parser
import Roster.Pattern.Search

/-! # Patterns that can be searched for -/

namespace Roster.Pattern

/-- The pattern that a text stands for, or nothing if it breaks a rule or is too large. -/
def parse? (s : String) : Option Regex := do
  let tree ← Tree.ofText? s
  let (r, _) ← tree.meaning? .default
  if Automaton.fits r then some r else none

end Roster.Pattern

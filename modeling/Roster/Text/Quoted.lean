import Roster.Text.Property

/-! # Quoted texts

A text in double quotes for a reader: quotes, backslashes and control characters are escaped,
and so is every character that would not show by itself. -/

namespace Roster.Quoted

/-- Characters without a sign of their own: those of certain categories, those that attach to the
character before them, and those that are mostly not shown. The blank alone is shown. -/
def hidden : CharSet :=
  .unions [
    .diff (Category.set .spaceSeparator) (.single ' '),
    Category.sets [.control, .format, .privateUse, .unassigned, .lineSeparator, .paragraphSeparator],
    Property.graphemeExtend, Property.defaultIgnorable]

def isHidden (c : Char) : Bool := c.toNat < 32 || (127 ≤ c.toNat && hidden.has c)

def escape (c : Char) : List Char :=
  if c == '"' then ['\\', '"']
  else if c == '\\' then ['\\', '\\']
  else if c == '\n' then ['\\', 'n']
  else if c == '\r' then ['\\', 'r']
  else if c == '\t' then ['\\', 't']
  else if c.toNat == 0 then ['\\', '0']
  else if isHidden c then ['\\', 'u', '{'] ++ Nat.toDigits 16 c.toNat ++ ['}']
  else [c]

def text (s : String) : String := String.ofList ('"' :: s.toList.flatMap escape ++ ['"'])

end Roster.Quoted

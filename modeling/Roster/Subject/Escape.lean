/-! # Escaped attribute values

A backslash stands before each character that separates or quotes, before a leading blank or
number sign, and before a trailing blank. -/

namespace Roster.Escape

def isSpecial (c : Char) : Bool := [',', '+', '"', '\\', '<', '>', ';'].contains c

def mark (escaped : Bool) (c : Char) (rest : List Char) : List Char :=
  if escaped then '\\' :: c :: rest else c :: rest

/-- Escapes what stands behind the first character. -/
def tail (cs : List Char) : List Char :=
  cs.foldr (fun c rest => mark (isSpecial c || (c == ' ' && rest.isEmpty)) c rest) []

def encode : List Char → List Char
  | [] => []
  | c :: rest => mark (isSpecial c || c == ' ' || c == '#') c (tail rest)

def text (s : String) : String := String.ofList (encode s.toList)

end Roster.Escape

import Roster.Pattern.Property
import Roster.Pattern.Tree
import Roster.Text.Blank

/-! # Reading escapes

An escape starts with a backslash. It stands for a character, for a class, or for a construct
without width. In verbose patterns, blanks and comments may also stand inside of it. -/

namespace Roster.Pattern

mutual

/-- In verbose patterns, blanks and comments between items count for nothing. -/
def skipBlank (verbose : Bool) : List Char → List Char
  | [] => []
  | c :: rest =>
    if !verbose then c :: rest
    else if isBlank c then skipBlank verbose rest
    else if c == '#' then skipComment verbose rest
    else c :: rest

def skipComment (verbose : Bool) : List Char → List Char
  | [] => []
  | c :: rest => if c == '\n' then skipBlank verbose rest else skipComment verbose rest

end

mutual

theorem length_skipBlank (verbose : Bool) :
    (cs : List Char) → (skipBlank verbose cs).length ≤ cs.length
  | [] => by simp [skipBlank]
  | c :: rest => by
    have blank := length_skipBlank verbose rest
    have comment := length_skipComment verbose rest
    rw [skipBlank]
    split
    · simp
    split
    · simp only [List.length_cons]; omega
    split
    · simp only [List.length_cons]; omega
    · simp

theorem length_skipComment (verbose : Bool) :
    (cs : List Char) → (skipComment verbose cs).length ≤ cs.length
  | [] => by simp [skipComment]
  | c :: rest => by
    have blank := length_skipBlank verbose rest
    have comment := length_skipComment verbose rest
    rw [skipComment]
    split <;> simp only [List.length_cons] <;> omega

end

/-- Characters of a kind from the start on, and what follows. Blanks are skipped behind each. -/
def spaced (verbose : Bool) (kind : Char → Bool) (cs : List Char) : List Char × List Char :=
  match cs with
  | [] => ([], [])
  | c :: rest =>
    if kind c then
      let (more, after) := spaced verbose kind (skipBlank verbose rest)
      (c :: more, after)
    else ([], c :: rest)
  termination_by cs.length
  decreasing_by
    have := length_skipBlank verbose rest
    simp only [List.length_cons]
    omega

/-! ### Characters by number -/

def isHex (c : Char) : Bool := (Hex.value? c.toLower).isSome

def hexChar? (digits : List Char) : Option Char :=
  let n := CharSet.hexNumber digits
  if !digits.isEmpty && n.isValidChar then some (Char.ofNat n) else none

/-- So many hex digits. -/
def hexDigits? (verbose : Bool) : Nat → List Char → Option (List Char × List Char)
  | 0, cs => some ([], cs)
  | _ + 1, [] => none
  | n + 1, c :: rest =>
    if isHex c then
      (hexDigits? verbose n (skipBlank verbose rest)).map fun (more, after) => (c :: more, after)
    else none

/-- A code point in hex, with so many digits or in braces. -/
def hexLiteral? (verbose : Bool) (count : Nat) (cs : List Char) : Option (Literal × List Char) :=
  match skipBlank verbose cs with
  | '{' :: rest =>
    match spaced verbose isHex (skipBlank verbose rest) with
    | (digits, '}' :: after) =>
      (hexChar? digits).map fun c => (⟨c, false⟩, skipBlank verbose after)
    | _ => none
  | cs => do
    let (digits, after) ← hexDigits? verbose count cs
    let c ← hexChar? digits
    some (⟨c, count == 2⟩, after)

/-! ### Classes by name -/

/-- Cuts at the first place where a mark stands. -/
def cutAt? (mark : List Char) : List Char → Option (List Char × List Char)
  | [] => none
  | c :: rest =>
    if mark.isPrefixOf (c :: rest) then some ([], (c :: rest).drop mark.length)
    else (cutAt? mark rest).map fun (before, after) => (c :: before, after)

/-- A name, or a property and its value with a mark between them. -/
def query? (name : List Char) : Option CharSet :=
  match cutAt? ['!', '='] name with
  | some (property, value) => setWith? property value
  | none =>
    match cutAt? [':'] name with
    | some (property, value) => setWith? property value
    | none =>
      match cutAt? ['='] name with
      | some (property, value) => setWith? property value
      | none => setNamed? name

/-- A class by its name in braces or by a single letter. -/
def namedClass? (verbose : Bool) (cs : List Char) : Option (CharSet × List Char) :=
  match skipBlank verbose cs with
  | [] => none
  | '{' :: rest =>
    match spaced verbose (· != '}') (skipBlank verbose rest) with
    | (name, _ :: after) => (query? name).map (·, after)
    | _ => none
  | c :: rest =>
    if c == '\\' then none else (setNamed? [c]).map (·, skipBlank verbose rest)

/-! ### Edges of words -/

def isEdgeNameChar (c : Char) : Bool := c.isAlpha || c == '-'

def edgeNamed? : String → Option WordEdge
  | "start" => some .start
  | "end" => some .stop
  | "start-half" => some .startHalf
  | "end-half" => some .stopHalf
  | _ => none

/-- An edge of a word, of a special kind if its name follows in braces. Braces that hold no name
repeat the edge. -/
def wordEdge? (verbose : Bool) (cs : List Char) : Option (WordEdge × List Char) :=
  match cs with
  | '{' :: rest =>
    match skipBlank verbose rest with
    | [] => none
    | c :: more =>
      if isEdgeNameChar c then
        match spaced verbose isEdgeNameChar (c :: more) with
        | (name, '}' :: after) => (edgeNamed? (String.ofList name)).map (·, after)
        | _ => none
      else some (.either, cs)
  | _ => some (.either, cs)

/-! ### All escapes -/

def isMeta (c : Char) : Bool := "\\.+*?()|[]\x7b\x7d^$#&-~".toList.contains c

/-- Letters and digits are kept for constructs; every other ASCII character may be escaped. -/
def isEscapable (c : Char) : Bool :=
  isMeta c || (c.toNat < 128 && !c.isAlphanum && c != '<' && c != '>')

inductive Token where
  | literal (l : Literal)
  | member (m : Member)
  | anchor (a : Anchor)

def Token.char (c : Char) : Token := .literal ⟨c, false⟩

/-- Reads what follows a backslash. -/
def escape? (verbose : Bool) : List Char → Option (Token × List Char)
  | [] => none
  | c :: rest =>
    match c with
    | 'x' => (hexLiteral? verbose 2 rest).map fun (l, after) => (.literal l, after)
    | 'u' => (hexLiteral? verbose 4 rest).map fun (l, after) => (.literal l, after)
    | 'U' => (hexLiteral? verbose 8 rest).map fun (l, after) => (.literal l, after)
    | 'p' => (namedClass? verbose rest).map fun (s, after) => (.member (.named s false), after)
    | 'P' => (namedClass? verbose rest).map fun (s, after) => (.member (.named s true), after)
    | 'd' => some (.member (.short .digit false), rest)
    | 'D' => some (.member (.short .digit true), rest)
    | 's' => some (.member (.short .blank false), rest)
    | 'S' => some (.member (.short .blank true), rest)
    | 'w' => some (.member (.short .word false), rest)
    | 'W' => some (.member (.short .word true), rest)
    | 'b' => (wordEdge? verbose rest).map fun (e, after) => (.anchor (.word e), after)
    | 'B' => some (.anchor (.word .neither), rest)
    | '<' => some (.anchor (.word .start), rest)
    | '>' => some (.anchor (.word .stop), rest)
    | 'A' => some (.anchor .textStart, rest)
    | 'z' => some (.anchor .textEnd, rest)
    | 'a' => some (.char '\x07', rest)
    | 'f' => some (.char '\x0c', rest)
    | 't' => some (.char '\t', rest)
    | 'n' => some (.char '\n', rest)
    | 'r' => some (.char '\r', rest)
    | 'v' => some (.char '\x0b', rest)
    | _ => if isEscapable c then some (.char c, rest) else none

end Roster.Pattern

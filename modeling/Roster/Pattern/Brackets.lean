import Roster.Pattern.Escape

/-! # Reading classes in brackets

Classes can be nested and joined by operators, which bind to the left and weaker than a union.
Open classes wait on a stack. -/

namespace Roster.Pattern

/-- A class being read: what stands before the pending operator, and the items behind it, last
first. -/
structure ClassLevel where
  negated : Bool
  pending : Option (ClassTree × ClassOperator)
  items : List ClassTree

namespace ClassLevel

def add (l : ClassLevel) (c : ClassTree) : ClassLevel := { l with items := c :: l.items }

def tree (l : ClassLevel) : ClassTree :=
  let right := ClassTree.ofItems l.items.reverse
  match l.pending with
  | some (left, op) => .operation op left right
  | none => right

def operator (l : ClassLevel) (op : ClassOperator) : ClassLevel :=
  ⟨l.negated, some (l.tree, op), []⟩

end ClassLevel

def charItem (c : Char) : ClassTree := .member (.literal ⟨c, false⟩)

/-- Leading hyphens stand for themselves. -/
def leadingHyphens (verbose : Bool) (l : ClassLevel) (cs : List Char) : ClassLevel × List Char :=
  match cs with
  | '-' :: rest => leadingHyphens verbose (l.add (charItem '-')) (skipBlank verbose rest)
  | _ => (l, cs)
  termination_by cs.length
  decreasing_by
    have := length_skipBlank verbose rest
    simp only [List.length_cons]
    omega

/-- Opens a class behind its bracket. A caret negates it, and a closing bracket that would leave
it empty stands for itself. -/
def openClass? (verbose : Bool) (cs : List Char) : Option (ClassLevel × List Char) :=
  let (negated, cs) := match skipBlank verbose cs with
    | '^' :: rest => (true, skipBlank verbose rest)
    | cs => (false, cs)
  match leadingHyphens verbose ⟨negated, none, []⟩ cs with
  | (_, []) => none
  | (l, c :: rest) =>
    if l.items.isEmpty && c == ']' then
      match skipBlank verbose rest with
      | [] => none
      | rest => some (l.add (charItem ']'), rest)
    else some (l, c :: rest)

/-- A character as written or an escape. -/
def classToken? (verbose : Bool) : List Char → Option (Token × List Char)
  | [] => none
  | '\\' :: rest => escape? verbose rest
  | c :: rest => some (.char c, rest)

def Token.member? : Token → Option Member
  | .literal l => some (.literal l)
  | .member m => some m
  | .anchor _ => none

/-- Whether a hyphen with this behind it does not join a range. A comment hides nothing here. -/
def endsBeforeHyphen (verbose : Bool) (cs : List Char) : Bool :=
  let next := if verbose then
      match dropBlank cs with
      | '#' :: rest => dropBlank rest
      | cs => cs
    else cs
  match next with
  | c :: _ => c == ']' || c == '-'
  | [] => false

/-- A range or a single member of a class. -/
def classMember? (verbose : Bool) (cs : List Char) : Option (Member × List Char) := do
  let (first, rest) ← classToken? verbose cs
  match skipBlank verbose rest with
  | [] => none
  | '-' :: after =>
    if endsBeforeHyphen verbose after then (first.member?).map (·, '-' :: after)
    else
      match first, ← classToken? verbose (skipBlank verbose after) with
      | .literal a, (.literal b, rest) =>
        if a.char.toNat ≤ b.char.toNat then some (.range a b, rest) else none
      | _, _ => none
  | rest => (first.member?).map (·, rest)

/-- A class of ASCII characters by name, behind its bracket. -/
def asciiClass? (cs : List Char) : Option (Member × List Char) := do
  let ':' :: cs := cs | none
  let (negated, cs) := match cs with
    | '^' :: rest => (true, rest)
    | _ => (false, cs)
  let name := cs.takeWhile (· != ':')
  let ':' :: ']' :: rest := cs.drop name.length | none
  let s ← asciiSet? (String.ofList name)
  some (.ascii s negated, rest)

/-- Reads a class to its end. -/
def classBody? (verbose : Bool) :
    Nat → ClassLevel → List ClassLevel → List Char → Option (Bool × ClassTree × List Char)
  | 0, _, _, _ => none
  | fuel + 1, l, outer, cs =>
    match skipBlank verbose cs with
    | [] => none
    | '[' :: rest =>
      match asciiClass? rest with
      | some (m, rest) => classBody? verbose fuel (l.add (.member m)) outer rest
      | none =>
        match openClass? verbose rest with
        | some (inner, rest) => classBody? verbose fuel inner (l :: outer) rest
        | none => none
    | ']' :: rest =>
      match outer with
      | [] => some (l.negated, l.tree, rest)
      | o :: outer => classBody? verbose fuel (o.add (.nested l.negated l.tree)) outer rest
    | '&' :: '&' :: rest => classBody? verbose fuel (l.operator .inter) outer rest
    | '-' :: '-' :: rest => classBody? verbose fuel (l.operator .diff) outer rest
    | '~' :: '~' :: rest => classBody? verbose fuel (l.operator .either) outer rest
    | cs =>
      match classMember? verbose cs with
      | some (m, rest) => classBody? verbose fuel (l.add (.member m)) outer rest
      | none => none

/-- Reads a class behind its bracket, with more fuel than there are characters. -/
def class? (verbose : Bool) (fuel : Nat) (cs : List Char) :
    Option (Bool × ClassTree × List Char) :=
  match openClass? verbose cs with
  | some (l, rest) => classBody? verbose fuel l [] rest
  | none => none

end Roster.Pattern

import Roster.Pattern.Flags
import Roster.Text.CharSet

/-! # Patterns as written

A tree keeps the nesting of a pattern as it stands in the text, since only so much nesting is
allowed. -/

namespace Roster.Pattern

/-- A character. One that is given by two hex digits may be meant as a byte. -/
structure Literal where
  char : Char
  byte : Bool
  deriving DecidableEq, Repr

inductive WordEdge where
  | either
  | neither
  | start
  | stop
  | startHalf
  | stopHalf
  deriving DecidableEq, Repr, Hashable

/-- Constructs that hold or fail without consuming a character. -/
inductive Anchor where
  | lineStart
  | lineEnd
  | textStart
  | textEnd
  | word (edge : WordEdge)
  deriving DecidableEq, Repr

/-- Classes that a single letter escapes to. -/
inductive ShortClass where
  | digit
  | blank
  | word
  deriving DecidableEq, Repr

/-- What can stand in a class. Only the first two consist of characters as written. -/
inductive Member where
  | literal (l : Literal)
  | range (first last : Literal)
  | ascii (s : CharSet) (negated : Bool)
  | short (c : ShortClass) (negated : Bool)
  | named (s : CharSet) (negated : Bool)
  deriving Repr

inductive ClassOperator where
  | inter
  | diff
  | either
  deriving DecidableEq, Repr

/-- The content of a class in brackets. -/
inductive ClassTree where
  | member (m : Member)
  | nested (negated : Bool) (c : ClassTree)
  | union (cs : List ClassTree)
  | operation (op : ClassOperator) (left right : ClassTree)
  deriving Repr

/-- Captured groups are numbered from one on. -/
inductive GroupKind where
  | captured (index : Nat)
  | plain (switches : Switches)
  deriving Repr

inductive Tree where
  | empty
  | switch (switches : Switches)
  | literal (l : Literal)
  | dot
  | anchor (a : Anchor)
  | member (m : Member)
  | brackets (negated : Bool) (c : ClassTree)
  | repeated (least : Nat) (most : Option Nat) (greedy : Bool) (t : Tree)
  | group (kind : GroupKind) (t : Tree)
  | alternation (ts : List Tree)
  | concat (ts : List Tree)
  deriving Repr

namespace ClassTree

/-- The union of members; a single one stands for itself. -/
def ofItems : List ClassTree → ClassTree
  | [c] => c
  | cs => .union cs

mutual

/-- Whether there are at most so many levels. -/
def fits : Nat → ClassTree → Bool
  | _, member _ => true
  | _, union [] => true
  | 0, _ => false
  | depth + 1, nested _ c => fits depth c
  | depth + 1, union (c :: cs) => fits depth c && fitsAll depth cs
  | depth + 1, operation _ left right => fits depth left && fits depth right

def fitsAll (depth : Nat) : List ClassTree → Bool
  | [] => true
  | c :: cs => fits depth c && fitsAll depth cs

end

end ClassTree

namespace Tree

def ofItems : List Tree → Tree
  | [] => .empty
  | [t] => t
  | ts => .concat ts

def ofAlternatives : List Tree → Tree
  | [t] => t
  | ts => .alternation ts

mutual

def fits : Nat → Tree → Bool
  | 0, brackets .. | 0, repeated .. | 0, group .. | 0, alternation _ | 0, concat _ => false
  | depth + 1, brackets _ c => c.fits depth
  | depth + 1, repeated _ _ _ t => fits depth t
  | depth + 1, group _ t => fits depth t
  | depth + 1, alternation ts => fitsAll depth ts
  | depth + 1, concat ts => fitsAll depth ts
  | _, _ => true

def fitsAll (depth : Nat) : List Tree → Bool
  | [] => true
  | t :: ts => fits depth t && fitsAll depth ts

end

/-- Deepest nesting that is allowed. -/
def nestLimit : Nat := 250

end Tree

end Roster.Pattern

import Roster.Pattern.Brackets
import Roster.Text.Decimal

/-! # Reading patterns

The reader goes through a pattern once. Open groups wait on a stack; each holds its finished
alternatives and the items of the current one, last first. A pattern that breaks a rule is
refused as a whole. -/

namespace Roster.Pattern

/-- A group being read, or the whole pattern. -/
structure Level where
  kind : GroupKind
  verbose : Bool
  alternatives : List Tree
  items : List Tree

namespace Level

def start (kind : GroupKind) (verbose : Bool) : Level := ⟨kind, verbose, [], []⟩

def push (l : Level) (t : Tree) : Level := { l with items := t :: l.items }

def split (l : Level) : Level :=
  { l with alternatives := .ofItems l.items.reverse :: l.alternatives, items := [] }

/-- All that has been read of the group. -/
def tree (l : Level) : Tree := .ofAlternatives l.split.alternatives.reverse

/-- Repeats the last item; an item that only sets flags cannot be repeated. -/
def repeatLast? (l : Level) (least : Nat) (most : Option Nat) (greedy : Bool) : Option Level :=
  match l.items with
  | [] | .empty :: _ | .switch _ :: _ => none
  | t :: rest => some { l with items := .repeated least most greedy t :: rest }

end Level

/-! ### Repetitions -/

/-- A number that fits in four bytes, between blanks. -/
def count? (verbose : Bool) (cs : List Char) : Option (Nat × List Char) :=
  let (digits, rest) := spaced verbose (fun c => (Decimal.digit? c).isSome) (dropBlank cs)
  match Decimal.parse UInt32.size (String.ofList digits) with
  | .ok n => some (n, dropBlank rest)
  | .error _ => none

/-- Reads a counted repetition behind its opening brace. -/
def counted? (verbose : Bool) (cs : List Char) : Option (Nat × Option Nat × List Char) := do
  let (least, rest) ← count? verbose (skipBlank verbose cs)
  match rest with
  | '}' :: rest => some (least, some least, skipBlank verbose rest)
  | ',' :: rest =>
    match skipBlank verbose rest with
    | '}' :: rest => some (least, none, skipBlank verbose rest)
    | rest =>
      let (most, rest) ← count? verbose rest
      match rest with
      | '}' :: rest =>
        if least ≤ most then some (least, some most, skipBlank verbose rest) else none
      | _ => none
  | _ => none

/-- A repetition may prefer few rounds. -/
def greed : List Char → Bool × List Char
  | '?' :: rest => (false, rest)
  | cs => (true, cs)

/-! ### Groups -/

/-- Reads flag letters up to a closing bracket or colon. No letter may stand twice, nor may the
hyphen, and the hyphen may not stand last. -/
def switches? (seen : List Char) (on : Bool) (done : Switches) :
    List Char → Option (Switches × List Char)
  | [] => none
  | c :: rest =>
    if c == ')' || c == ':' then
      if seen.head? == some '-' then none else some (done.reverse, c :: rest)
    else if seen.contains c then none
    else if c == '-' then switches? (c :: seen) false done rest
    else
      match Flag.ofLetter? c with
      | some flag => switches? (c :: seen) on ((flag, on) :: done) rest
      | none => none

def isGroupNameChar (first : Bool) (c : Char) : Bool :=
  c == '_' || (if first then Property.alphabetic.has c
    else Property.alphanumeric.has c || c == '.' || c == '[' || c == ']')

/-- Reads a group's name up to its closing bracket. -/
def groupName? (cs : List Char) : Option (List Char × List Char) :=
  let name := cs.takeWhile (· != '>')
  match name, cs.drop name.length with
  | c :: more, '>' :: rest =>
    if isGroupNameChar true c && more.all (isGroupNameChar false) then some (name, rest) else none
  | _, _ => none

inductive Opening where
  | captured
  | named (name : List Char)
  | plain (switches : Switches)
  | switch (switches : Switches)

/-- Reads what opens a group behind its bracket; looking around is refused. -/
def opening? (cs : List Char) : Option (Opening × List Char) :=
  match cs with
  | '?' :: '=' :: _ | '?' :: '!' :: _ | '?' :: '<' :: '=' :: _ | '?' :: '<' :: '!' :: _ => none
  | '?' :: 'P' :: '<' :: rest | '?' :: '<' :: rest =>
    (groupName? rest).map fun (name, rest) => (.named name, rest)
  | '?' :: rest =>
    match switches? [] true [] rest with
    | some (switches, ':' :: rest) => some (.plain switches, rest)
    | some (switch :: more, ')' :: rest) => some (.switch (switch :: more), rest)
    | _ => none
  | _ => some (.captured, cs)

/-! ### Whole patterns -/

def verboseIn (switches : Switches) (before : Bool) : Bool :=
  (switches.lookup .verbose).getD before

/-- How far a pattern has been read: the names of the groups so far, the number of captured
groups, the group being read, and those around it, innermost first. -/
structure Reader where
  names : List (List Char)
  captured : Nat
  level : Level
  outer : List Level

namespace Reader

def start : Reader := ⟨[], 0, .start (.plain []) false, []⟩

def push (r : Reader) (t : Tree) : Reader := { r with level := r.level.push t }

/-- Starts a group inside the current one. -/
def enter (r : Reader) (kind : GroupKind) (verbose : Bool) : Reader :=
  { r with level := .start kind verbose, outer := r.level :: r.outer }

def capture (r : Reader) : Reader :=
  { r with captured := r.captured + 1 }.enter (.captured (r.captured + 1)) r.level.verbose

def openGroup? (r : Reader) (cs : List Char) : Option (Reader × List Char) :=
  let verbose := r.level.verbose
  match opening? (skipBlank verbose cs) with
  | none => none
  | some (.switch switches, rest) =>
    let level := r.level.push (.switch switches)
    some ({ r with level := { level with verbose := verboseIn switches verbose } }, rest)
  | some (.plain switches, rest) => some (r.enter (.plain switches) (verboseIn switches verbose), rest)
  | some (.captured, rest) => some (r.capture, rest)
  | some (.named name, rest) =>
    if r.names.contains name then none
    else some ({ r with names := name :: r.names }.capture, rest)

def closeGroup? (r : Reader) : Option Reader :=
  match r.outer with
  | [] => none
  | o :: outer => some { r with level := o.push (.group r.level.kind r.level.tree), outer := outer }

def repeatLast? (r : Reader) (least : Nat) (most : Option Nat) (cs : List Char) :
    Option (Reader × List Char) :=
  let (greedy, rest) := greed cs
  (r.level.repeatLast? least most greedy).map fun level => ({ r with level := level }, rest)

/-- Reads one item, of which the first character is given. The fuel is for classes. -/
def item? (r : Reader) (fuel : Nat) (c : Char) (rest : List Char) : Option (Reader × List Char) :=
  let verbose := r.level.verbose
  match c with
  | '(' => r.openGroup? rest
  | ')' => r.closeGroup?.map (·, rest)
  | '|' => some ({ r with level := r.level.split }, rest)
  | '*' => r.repeatLast? 0 none rest
  | '+' => r.repeatLast? 1 none rest
  | '?' => r.repeatLast? 0 (some 1) rest
  | '{' =>
    match counted? verbose rest with
    | some (least, most, rest) => r.repeatLast? least most rest
    | none => none
  | '[' => (class? verbose fuel rest).map fun (negated, c, rest) => (r.push (.brackets negated c), rest)
  | '\\' =>
    match escape? verbose rest with
    | some (.literal l, rest) => some (r.push (.literal l), rest)
    | some (.member m, rest) => some (r.push (.member m), rest)
    | some (.anchor a, rest) => some (r.push (.anchor a), rest)
    | none => none
  | '.' => some (r.push .dot, rest)
  | '^' => some (r.push (.anchor .lineStart), rest)
  | '$' => some (r.push (.anchor .lineEnd), rest)
  | c => some (r.push (.literal ⟨c, false⟩), rest)

/-- Reads a pattern to its end, where all groups must be closed. -/
def run? : Nat → Reader → List Char → Option Tree
  | 0, _, _ => none
  | fuel + 1, r, cs =>
    match skipBlank r.level.verbose cs with
    | [] => if r.outer.isEmpty then some r.level.tree else none
    | c :: rest =>
      match r.item? fuel c rest with
      | some (r, rest) => run? fuel r rest
      | none => none

end Reader

/-- The tree of a pattern, unless it breaks a rule or nests too deeply. -/
def Tree.ofText? (s : String) : Option Tree :=
  let cs := s.toList
  match Reader.start.run? (cs.length + 1) cs with
  | some t => if t.fits nestLimit then some t else none
  | none => none

end Roster.Pattern

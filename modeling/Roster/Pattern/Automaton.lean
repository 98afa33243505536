import Roster.Pattern.Regex
import Roster.Text.ByteRange
import Roster.Text.Pieces
import Roster.Text.Utf8
import Std.Data.HashMap

/-! # The size of a pattern's automaton

A pattern is searched by an automaton over bytes, forward, and by one for the mirrored pattern,
backward. Neither may take more memory than a limit. Here the automata are not built; it is only
counted what their states take.

A state that several states follow is a fork. States for a set of characters are shared within
that set, as far as a small table of the latest ones shows that they are alike. -/

namespace Roster.Automaton

open Pattern

/-- The number of states and the memory that they take in bytes. -/
structure Cost where
  states : Nat
  memory : Nat
  deriving DecidableEq, Repr

/-- The limit on the memory of an automaton. -/
def limit : Nat := 10485760

namespace Cost

def exceeds (a : Cost) : Bool := limit < a.memory

/-- A state with so many bytes beside it. -/
def state (a : Cost) (extra : Nat) : Cost := ⟨a.states + 1, a.memory + 32 + extra⟩

def plain (a : Cost) (count : Nat) : Cost := ⟨a.states + count, a.memory + 32 * count⟩

/-- An edge out of a fork. -/
def edges (a : Cost) (count : Nat) : Cost := { a with memory := a.memory + 4 * count }

/-- An edge out of the end of a part, which costs something if that is a fork. -/
def link (a : Cost) (fork : Bool) : Cost := if fork then a.edges 1 else a

end Cost

/-- What a part adds up to, and whether it ends in a fork. -/
abbrev Part := Cost × Bool

/-! ### Sets of characters -/

def mix (h : UInt64) (n : Nat) : UInt64 := (h ^^^ n.toUInt64) * 1099511628211

def mixStart : UInt64 := 14695981039346656037

/-- A step to a state on any byte of a range. -/
structure Step where
  bytes : ByteRange
  target : Nat
  deriving DecidableEq

/-- What has been counted for a set, and the latest state in each slot of a table. -/
structure Shared (α : Type) where
  cost : Cost
  slots : Std.HashMap Nat (α × Nat)

/-- A state with the given steps, or one like it that is still in the table. -/
def Shared.node (s : Shared (List Step)) (steps : List Step) : Nat × Shared (List Step) :=
  let hash := steps.foldl
    (fun h t => mix (mix (mix h t.bytes.first) t.bytes.last) t.target) mixStart
  let slot := (hash % 10000).toNat
  let fresh := (s.cost.states,
    ⟨s.cost.state (8 * steps.length), s.slots.insert slot (steps, s.cost.states)⟩)
  match s.slots[slot]? with
  | some (known, id) => if known = steps then (id, s) else fresh
  | none => fresh

/-- The state from which the parts lead to the target, all parts being at most so long. -/
def forwardNode (target : Nat) :
    Nat → List (List ByteRange) → Shared (List Step) → Nat × Shared (List Step)
  | 0, _, s => (target, s)
  | depth + 1, parts, s =>
    if parts.all (·.isEmpty) then (target, s)
    else
      let groups := parts.splitBy fun a b => a.head? == b.head?
      let (steps, s) := groups.foldl (fun (steps, s) group =>
        let (id, s) := forwardNode target depth (group.map fun part => part.drop 1) s
        match group with
        | (bytes :: _) :: _ => (⟨bytes, id⟩ :: steps, s)
        | _ => (steps, s)) ([], s)
      s.node steps.reverse

def forwardSet (s : CharSet) (a : Cost) : Cost :=
  let parts := s.ranges.toList.flatMap ByteRange.parts
  (forwardNode a.states 4 parts ⟨a.state 0, ∅⟩).2.cost

/-- Leads backward from a state over a part. -/
def backwardPart (s : Shared Step) (id : Nat) : List ByteRange → Shared Step
  | [] => { s with cost := s.cost.edges 1 }
  | bytes :: rest =>
    let step : Step := ⟨bytes, id⟩
    let slot := (mix (mix (mix mixStart id) bytes.first) bytes.last % 1000).toNat
    let fresh : Shared Step :=
      ⟨s.cost.state 0, s.slots.insert slot (step, s.cost.states)⟩
    match s.slots[slot]? with
    | some (known, next) =>
      if known = step then backwardPart s next rest else backwardPart fresh s.cost.states rest
    | none => backwardPart fresh s.cost.states rest

def backwardSet (s : CharSet) (a : Cost) : Cost :=
  let parts := s.ranges.toList.flatMap ByteRange.parts
  (parts.foldl (fun shared part => backwardPart shared (a.states + 1) part)
    (⟨(a.state 0).state 0, ∅⟩ : Shared Step)).cost

def set (backward : Bool) (s : CharSet) (a : Cost) : Cost :=
  if s.isAscii then (a.state 0).state (8 * s.ranges.size)
  else if backward then backwardSet s a
  else forwardSet s a

/-! ### Choices between texts -/

/-- Counts a tree of texts. Each entry of `work` holds the texts that remain to be read behind a
node, in order. A text that ends at a node parts the texts before it from those behind. -/
def textTree : Nat → List (List (List UInt8)) → Cost → Cost
  | 0, _, a => a
  | _, [], a => a
  | fuel + 1, texts :: work, a =>
    let rest := texts.dropWhile (·.isEmpty)
    let ends := min 1 (texts.takeWhile (·.isEmpty)).length + (rest.filter (·.isEmpty)).length
    let runs := (pieces (·.isEmpty) rest).filter fun run => !run.isEmpty
    if runs.isEmpty then textTree fuel work a
    else
      let children := runs.map fun run =>
        (run.mergeSort fun s t => s.head?.getD 0 ≤ t.head?.getD 0).splitBy
          fun s t => s.head? == t.head?
      let a := children.foldl (fun a group =>
        a.state (if group.length = 1 then 0 else 8 * group.length)) a
      let a := a.state (4 * (runs.length + ends))
      textTree fuel
        (children.foldl (fun work group =>
          group.foldl (fun work texts => texts.map (List.drop 1) :: work) work) work) a

def textsOf? : List Regex → Option (List (List Char)) := List.mapM fun
  | .text cs => some cs
  | _ => none

def texts (backward : Bool) (ts : List (List Char)) (a : Cost) : Cost :=
  let ts := ts.map fun cs =>
    let bytes := Utf8.encode (String.ofList cs)
    if backward then bytes.reverse else bytes
  let fuel := ts.foldl (fun n bytes => n + bytes.length) 2
  textTree fuel [ts] (a.state 0)

/-! ### Repetitions -/

/-- More copies of a part, one behind the other, until there are too many. -/
def copies (part : Cost → Part) : Nat → Part → Part
  | 0, done => done
  | n + 1, (a, fork) =>
    if a.exceeds then (a, fork)
    else
      let (b, next) := part a
      copies part n (b.link fork, next)

def exactly (part : Cost → Part) : Nat → Cost → Part
  | 0, a => (a.state 0, false)
  | n + 1, a => copies part n (part a)

/-- Copies that may be left out from any one on. -/
def optional (part : Cost → Part) : Nat → Part → Part
  | 0, (a, fork) => (a.link fork, false)
  | n + 1, (a, fork) =>
    if a.exceeds then (a, fork)
    else
      let (b, next) := part (a.state 0)
      optional part n ((b.link fork).edges 2, next)

/-- A part and a fork that leads back to its start. -/
def onceOrMore (part : Cost → Part) (a : Cost) : Part :=
  let (a, fork) := part a
  (((a.state 0).link fork).edges 1, true)

def repeated (part : Cost → Part) (consumes : Bool) (least : Nat) (most : Option Nat) (a : Cost) :
    Part :=
  match least, most with
  | 0, some 1 =>
    let (a, fork) := part (a.state 0)
    (((a.state 0).edges 2).link fork, false)
  | 0, none =>
    if consumes then
      let (a, fork) := part (a.state 0)
      ((a.edges 1).link fork, true)
    else
      let (a, _) := onceOrMore part a
      (((a.state 0).state 0).edges 3, false)
  | 1, none => onceOrMore part a
  | n + 2, none =>
    let (a, fork) := exactly part (n + 1) a
    let (a, _) := onceOrMore part a
    (a.link fork, true)
  | least, some most =>
    let (a, fork) := exactly part least a
    if least = most then (a, fork) else optional part (most - least) (a.state 0, fork)

/-! ### Patterns -/

mutual

def part (backward : Bool) (a : Cost) (r : Regex) : Part :=
  if a.exceeds then (a, false)
  else
    match r with
    | .empty | .place _ => (a.state 0, false)
    | .text cs => (a.plain (String.ofList cs).utf8ByteSize, false)
    | .oneOf s => (set backward s a, false)
    | .repeated least most _ r =>
      repeated (fun a => part backward a r) (r.consumes?.getD false) least most a
    | .captured _ r =>
      if backward then part backward a r
      else
        let (a, fork) := part backward (a.state 0) r
        ((a.state 0).link fork, false)
    | .seq rs => parts backward none a rs
    | .alt rs =>
      match textsOf? rs with
      | some ts => (texts backward ts a, false)
      | none => (alternatives backward 0 a rs, false)

/-- Parts one behind the other. -/
def parts (backward : Bool) (before : Option Bool) (a : Cost) : List Regex → Part
  | [] => (a, before.getD false)
  | r :: rs =>
    let (a, fork) := part backward a r
    parts backward (some fork) (a.link (before.getD false)) rs

/-- Parts side by side. The states that join them are made behind the second one. -/
def alternatives (backward : Bool) (index : Nat) (a : Cost) : List Regex → Cost
  | [] => a
  | r :: rs =>
    let (a, fork) := part backward a r
    let a := if index = 1 then (a.state 0).state 0 else a
    alternatives backward (index + 1) ((a.edges 1).link fork) rs

end

mutual

/-- The pattern for the reversed text. Texts are turned where they are counted. -/
def mirror : Regex → Regex
  | .repeated least most greedy r => .repeated least most greedy (mirror r)
  | .captured index r => .captured index (mirror r)
  | .seq rs => .seq (mirrorAll true [] rs)
  | .alt rs => .alt (mirrorAll false [] rs)
  | r => r

def mirrorAll (turn : Bool) (done : List Regex) : List Regex → List Regex
  | [] => if turn then done else done.reverse
  | r :: rs => mirrorAll turn (mirror r :: done) rs

end

mutual

/-- Whether every occurrence starts at the start of the text, as far as the pattern shows. -/
def opens (edge : Place) : Regex → Bool
  | .place p => p == edge
  | .repeated least _ _ r => 0 < least && opens edge r
  | .captured _ r => opens edge r
  | .seq rs => someOpens edge rs
  | .alt rs => allOpen edge rs
  | _ => false

def someOpens (edge : Place) : List Regex → Bool
  | [] => false
  | r :: rs => opens edge r || (r.isWidthless && someOpens edge rs)

def allOpen (edge : Place) : List Regex → Bool
  | [] => true
  | r :: rs => opens edge r && allOpen edge rs

end

/-- The states before a pattern: a loop over any bytes, unless it can occur in one place only. -/
def entry (bound : Bool) : Cost :=
  let a : Cost := ⟨0, 0⟩
  if bound then a.state 0 else (((a.state 0).state 0).state 8).edges 2

def forward (r : Regex) : Cost :=
  let (a, fork) := part false ((entry (opens .textStart r)).state 0) r
  ((a.state 0).link fork).state 0

def backward (r : Regex) : Cost :=
  let m := mirror r
  let (a, fork) := part true (entry (opens .textEnd m)) m
  (a.state 0).link fork

/-- A choice between very many texts is searched in another way. -/
def isWordList : Regex → Bool
  | .alt rs => 3000 ≤ rs.length && (textsOf? rs).isSome
  | _ => false

/-- Whether a pattern is small enough to be searched. -/
def fits (r : Regex) : Bool :=
  isWordList r || (!(forward r).exceeds && !(backward r).exceeds)

end Roster.Automaton

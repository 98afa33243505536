import Roster.Pattern.Property
import Roster.Pattern.Regex
import Std.Data.HashMap

/-! # Searching texts for patterns

A pattern is followed over a whole text at once: from the set of places that have been reached,
each construct gives the set of places reached behind it. A set of places is a number, in which
bit `i` says whether the place behind `i` characters belongs to the set. -/

namespace Roster

open Pattern

namespace WordEdge

/-- Whether a place is such an edge, by whether there are word characters on its sides. -/
def holds (before after : Bool) : WordEdge → Bool
  | .either => before != after
  | .neither => before == after
  | .start => !before && after
  | .stop => before && !after
  | .startHalf => !before
  | .stopHalf => !after

end WordEdge

def isWordChar (unicode : Bool) (c : Char) : Bool :=
  if unicode then wordSet.has c else c.isAlphanum || c == '_'

/-- Whether a place holds between two characters, either of which is missing at an end. The two
characters of a line break are not parted. -/
def Place.holds (before after : Option Char) : Place → Bool
  | .textStart => before.isNone
  | .textEnd => after.isNone
  | .lineStart false => before.all (· == '\n')
  | .lineEnd false => after.all (· == '\n')
  | .lineStart true => before.all (· == '\n') || (before == some '\r' && after != some '\n')
  | .lineEnd true => after.all (· == '\r') || (after == some '\n' && before != some '\r')
  | .word edge unicode =>
    WordEdge.holds (before.any (isWordChar unicode)) (after.any (isWordChar unicode)) edge

namespace Regex

/-- A set of places. -/
abbrev Places := Nat

namespace Places

/-- The `count` places from `first` on for which a test holds, moved to the start. -/
def ofTest (test : Nat → Bool) (first count : Nat) : Places :=
  if count = 0 then 0
  else if count = 1 then if test first then 1 else 0
  else
    let half := count / 2
    ofTest test first half ||| ofTest test (first + half) (count - half) <<< half
  termination_by count

/-- The members of one set that do not belong to another. -/
def without (a b : Places) : Places := (a ||| b) ^^^ b

/-- The places behind the members of a set. -/
def next (a : Places) : Places := a <<< 1

end Places

/-- What a search asks of single characters and places. -/
inductive Question where
  | char (c : Char)
  | oneOf (s : CharSet)
  | place (p : Place)
  deriving DecidableEq

instance : Hashable Question where
  hash
    | .char c => mixHash 1 (hash c.toNat)
    | .oneOf s => mixHash 2 (hash s)
    | .place p => mixHash 3 (hash p)

mutual

/-- The questions of a pattern, added to those that are known. -/
def questions (known : Std.HashSet Question) : Regex → Std.HashSet Question
  | empty => known
  | text cs => cs.foldl (fun known c => known.insert (.char c)) known
  | oneOf s => known.insert (.oneOf s)
  | place p => known.insert (.place p)
  | repeated _ _ _ r | captured _ r => questions known r
  | seq rs | alt rs => questionsAll known rs

def questionsAll (known : Std.HashSet Question) : List Regex → Std.HashSet Question
  | [] => known
  | r :: rs => questionsAll (questions known r) rs

end

/-- The places of a text that answer a question: those before a character or a place itself. -/
def Question.answer (cs : Array Char) : Question → Places
  | char c => .ofTest (fun i => cs[i]? == some c) 0 cs.size
  | oneOf s => .ofTest (fun i => cs[i]?.any s.has) 0 cs.size
  | place p =>
    .ofTest (fun i => p.holds (if i = 0 then none else cs[i - 1]?) cs[i]?) 0 (cs.size + 1)

/-- Applies a step a number of times, but no more once it changes nothing. -/
def repeatStep (step : Places → Places) : Nat → Places → Places
  | 0, reached => reached
  | n + 1, reached =>
    let more := step reached
    if more = reached then reached else repeatStep step n more

/-- Adds what a step reaches up to a number of times from the latest places. -/
def spread (step : Places → Places) : Nat → Places → Places → Places
  | 0, reached, _ => reached
  | n + 1, reached, latest =>
    let fresh := (step latest).without reached
    if fresh = 0 then reached else spread step n (reached ||| fresh) fresh

/-- The places reached over any number of characters before which a place belongs to `mask`: a
carry runs through each row of such places. -/
def overRun (mask reached : Places) : Places := ((reached &&& mask) + mask) ^^^ mask ||| reached

mutual

def advance (answer : Question → Places) (size : Nat) : Regex → Places → Places
  | empty, reached => reached
  | text cs, reached =>
    cs.foldl (fun reached c => if reached = 0 then 0 else (reached &&& answer (.char c)).next) reached
  | oneOf s, reached => (reached &&& answer (.oneOf s)).next
  | place p, reached => reached &&& answer (.place p)
  | captured _ r, reached => advance answer size r reached
  | repeated least most _ r, reached =>
    let reached := repeatStep (advance answer size r) least reached
    match most, r with
    | none, oneOf s => overRun (answer (.oneOf s)) reached
    | none, _ => spread (advance answer size r) (size + 1) reached reached
    | some most, _ => spread (advance answer size r) (most - least) reached reached
  | seq rs, reached => advanceAll answer size rs reached
  | alt rs, reached => advanceAny answer size 0 rs reached

def advanceAll (answer : Question → Places) (size : Nat) : List Regex → Places → Places
  | [], reached => reached
  | r :: rs, reached =>
    if reached = 0 then 0 else advanceAll answer size rs (advance answer size r reached)

def advanceAny (answer : Question → Places) (size : Nat) (done : Places) :
    List Regex → Places → Places
  | [], _ => done
  | r :: rs, reached =>
    advanceAny answer size (done ||| advance answer size r reached) rs reached

end

/-- Whether the pattern occurs somewhere in the text. -/
def occursIn (r : Regex) (s : String) : Bool :=
  let cs := s.toList.toArray
  let answers := (questions ∅ r).fold (fun answers q => answers.insert q (q.answer cs))
    (∅ : Std.HashMap Question Places)
  let all := Places.ofTest (fun _ => true) 0 (cs.size + 1)
  advance (fun q => answers[q]?.getD 0) cs.size r all != 0

end Regex

end Roster

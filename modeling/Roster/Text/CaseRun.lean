import Roster.Text.CharSet

/-! # Tables of single characters for others

Capital letters and their small forms mostly come in runs that keep their distance. -/

namespace Roster

/-- The characters from `first` to `last`, or every second one of them; the first stands for
`target` and the others for what lies as far behind it. -/
structure CaseRun where
  first : Nat
  last : Nat
  step : Nat
  target : Nat
  deriving DecidableEq, Repr

namespace CaseRun

def contains (r : CaseRun) (n : Nat) : Bool :=
  r.first ≤ n && n ≤ r.last && (n - r.first) % r.step == 0

def image (r : CaseRun) (n : Nat) : Nat := r.target + (n - r.first)

def members (r : CaseRun) : List Nat :=
  (List.range ((r.last - r.first) / r.step + 1)).map fun i => r.first + r.step * i

/-- Reads an entry of a table: a character or a range of characters, and the target behind a
colon. -/
def entry? (word : List Char) : Option CaseRun :=
  match pieces (· == ':') (word.filter (· != '*')) with
  | [sources, target] =>
    let step := if word.contains '*' then 2 else 1
    match pieces (· == '-') sources with
    | [first, last] =>
      some ⟨CharSet.hexNumber first, CharSet.hexNumber last, step, CharSet.hexNumber target⟩
    | [code] => some ⟨CharSet.hexNumber code, CharSet.hexNumber code, 1, CharSet.hexNumber target⟩
    | _ => none
  | _ => none

def ofTable (lines : List String) : List CaseRun :=
  lines.flatMap fun line => (pieces (· == ' ') line.toList).filterMap entry?

end CaseRun

end Roster

import Roster.Pattern.Tree

/-! # Patterns by their meaning

Flags and ways of writing are gone here: a pattern is built from texts, sets of characters and
places. The functions that build one keep it small. -/

namespace Roster

open Pattern

/-- What a place between characters must look like. -/
inductive Place where
  | textStart
  | textEnd
  | lineStart (crlf : Bool)
  | lineEnd (crlf : Bool)
  | word (edge : WordEdge) (unicode : Bool)
  deriving DecidableEq, Repr, Hashable

/-- The least and the greatest number of rounds of a repetition come with whether it prefers many
of them, which decides what it captures but not whether it occurs. -/
inductive Regex where
  | empty
  | text (cs : List Char)
  | oneOf (s : CharSet)
  | place (p : Place)
  | repeated (least : Nat) (most : Option Nat) (greedy : Bool) (r : Regex)
  | captured (index : Nat) (r : Regex)
  | seq (rs : List Regex)
  | alt (rs : List Regex)
  deriving BEq, Repr, Inhabited

namespace Regex

/-- What never occurs. -/
def never : Regex := .oneOf .empty

def ofSet (s : CharSet) : Regex :=
  match s.only? with
  | some c => .text [c]
  | none => .oneOf s

/-! ### Widths -/

mutual

/-- Whether every occurrence is empty. -/
def isWidthless : Regex → Bool
  | empty | place _ => true
  | text _ | oneOf _ => false
  | repeated _ _ _ r | captured _ r => r.isWidthless
  | seq rs | alt rs => allWidthless rs

def allWidthless : List Regex → Bool
  | [] => true
  | r :: rs => r.isWidthless && allWidthless rs

end

mutual

/-- Whether every occurrence has characters; not known where a part never occurs. -/
def consumes? : Regex → Option Bool
  | empty | place _ => some false
  | text _ => some true
  | oneOf s => if s.isEmpty then none else some true
  | repeated least _ _ r => r.consumes?.map fun c => c && 0 < least
  | captured _ r => r.consumes?
  | seq rs => anyConsumes? false rs
  | alt rs => allConsume? true rs

def anyConsumes? (found : Bool) : List Regex → Option Bool
  | [] => some found
  | r :: rs =>
    match r.consumes? with
    | some c => anyConsumes? (found || c) rs
    | none => none

def allConsume? (found : Bool) : List Regex → Option Bool
  | [] => some found
  | r :: rs =>
    match r.consumes? with
    | some c => allConsume? (found && c) rs
    | none => none

end

/-! ### Building -/

/-- A sequence with neighbouring texts joined. Both lists hold what is done last first. -/
def joinTexts (text : List Char) (done : List Regex) : List Regex → List Regex
  | [] => (close text done).reverse
  | .empty :: rest => joinTexts text done rest
  | .text cs :: rest => joinTexts (cs.reverse ++ text) done rest
  | r :: rest => joinTexts [] (r :: close text done) rest
where
  close (text : List Char) (done : List Regex) : List Regex :=
    if text.isEmpty then done else .text text.reverse :: done

/-- The sequence of patterns; sequences in it are taken apart. -/
def concat (rs : List Regex) : Regex :=
  let items := rs.flatMap fun
    | .seq rs => rs
    | r => [r]
  match joinTexts [] [] items with
  | [] => .empty
  | [r] => r
  | rs => .seq rs

def char? : Regex → Option Char
  | .text [c] => some c
  | _ => none

def set? : Regex → Option CharSet
  | .oneOf s => some s
  | _ => none

/-- The choice between patterns; choices in it are taken apart. A choice between characters or
between sets is a set. -/
def either (rs : List Regex) : Regex :=
  let items := rs.flatMap fun
    | .alt rs => rs
    | r => [r]
  match items with
  | [] => never
  | [r] => r
  | rs =>
    if rs.all fun r => r.char?.isSome then
      ofSet (.ofRanges (rs.filterMap fun r => r.char?.map fun c => .single c.toNat))
    else if rs.all fun r => r.set?.isSome then ofSet (.unions (rs.filterMap set?))
    else .alt rs

def seq? : Regex → Option (List Regex)
  | .seq rs => some rs
  | _ => none

/-- How many items from the start on two sequences have in common. -/
def common (as bs : List Regex) : Nat := ((as.zip bs).takeWhile fun (a, b) => a == b).length

/-- The choice between patterns. What sequences have in common at their start is put before it. -/
def choice (rs : List Regex) : Regex :=
  match either rs with
  | .alt rs =>
    match rs.mapM seq? with
    | some (first :: others) =>
      let n := others.foldl (fun n other => min n (common first other)) first.length
      if n = 0 then .alt rs
      else
        concat (first.take n ++
          [either ((first :: others).map fun items => concat (items.drop n))])
    | _ => .alt rs
  | r => r

/-- So many rounds of a pattern. More than one round makes no difference where all are empty. -/
def rounds (least : Nat) (most : Option Nat) (greedy : Bool) (r : Regex) : Regex :=
  let (least, most) :=
    if r.isWidthless then (min least 1, some (min (most.getD 1) 1)) else (least, most)
  match least, most with
  | 0, some 0 => .empty
  | 1, some 1 => r
  | _, _ => .repeated least most greedy r

end Regex

end Roster

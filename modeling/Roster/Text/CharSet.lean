import Roster.Text.Pieces
import Roster.Token.Hex

/-! # Sets of characters

A set is given by ranges of code points in ascending order, between which at least one code point
is missing. The operations keep that form. -/

namespace Roster

/-- The code points from `first` to `last`, both included. -/
structure CharRange where
  first : Nat
  last : Nat
  deriving DecidableEq, Repr, Hashable, Inhabited

namespace CharRange

def single (n : Nat) : CharRange := ⟨n, n⟩

/-- The range with these ends, whichever comes first. -/
def between (a b : Nat) : CharRange := ⟨min a b, max a b⟩

/-- The range a member of which is every `step`-th code point from `first` on. -/
def every (step : Nat) (r : CharRange) : List CharRange :=
  if step ≤ 1 then [r]
  else (List.range ((r.last - r.first) / step + 1)).map fun i => single (r.first + step * i)

end CharRange

/-- The character before a code point that is not the first; surrogates are no characters. -/
def codeBefore (n : Nat) : Nat := if n = 0xE000 then 0xD7FF else n - 1

/-- The character behind a code point that is not the last. -/
def codeAfter (n : Nat) : Nat := if n = 0xD7FF then 0xE000 else n + 1

def lastCode : Nat := 0x10FFFF

structure CharSet where
  ranges : Array CharRange
  deriving DecidableEq, Repr, Hashable, Inhabited

namespace CharSet

def empty : CharSet := ⟨#[]⟩

def full : CharSet := ⟨#[⟨0, lastCode⟩]⟩

/-- Joins ranges in ascending order that touch or overlap; `done` holds those joined, last first. -/
def join (done : List CharRange) : List CharRange → List CharRange
  | [] => done.reverse
  | r :: rest =>
    match done with
    | [] => join [r] rest
    | d :: done =>
      if r.first ≤ d.last + 1 then join (⟨d.first, max d.last r.last⟩ :: done) rest
      else join (r :: d :: done) rest

def ofRanges (ranges : List CharRange) : CharSet :=
  ⟨(join [] (ranges.mergeSort fun a b => a.first ≤ b.first)).toArray⟩

def single (c : Char) : CharSet := ⟨#[.single c.toNat]⟩

def range (first last : Nat) : CharSet := ⟨#[⟨first, last⟩]⟩

/-- Whether a code point lies in one of the ranges from `low` to before `high`. -/
def search (ranges : Array CharRange) (n : Nat) (low high : Nat) : Bool :=
  if _h : low < high then
    let mid := (low + high) / 2
    let r := ranges[mid]?.getD default
    if n < r.first then search ranges n low mid
    else if r.last < n then search ranges n (mid + 1) high
    else true
  else false
  termination_by high - low

def hasCode (s : CharSet) (n : Nat) : Bool := search s.ranges n 0 s.ranges.size

def has (s : CharSet) (c : Char) : Bool := s.hasCode c.toNat

def isEmpty (s : CharSet) : Bool := s.ranges.isEmpty

/-- Whether all members are ASCII characters. -/
def isAscii (s : CharSet) : Bool := s.ranges.all fun r => r.last < 128

/-- The only member, if there is just one. -/
def only? (s : CharSet) : Option Char :=
  match s.ranges.toList with
  | [r] => if r.first = r.last then some (Char.ofNat r.first) else none
  | _ => none

def union (s t : CharSet) : CharSet :=
  if t.isEmpty then s
  else if s.isEmpty then t
  else ofRanges (s.ranges.toList ++ t.ranges.toList)

def unions (sets : List CharSet) : CharSet :=
  ofRanges (sets.flatMap fun s => s.ranges.toList)

def interRanges : List CharRange → List CharRange → List CharRange
  | [], _ => []
  | _, [] => []
  | a :: as, b :: bs =>
    let rest := if a.last < b.last then interRanges as (b :: bs) else interRanges (a :: as) bs
    let first := max a.first b.first
    let last := min a.last b.last
    if first ≤ last then ⟨first, last⟩ :: rest else rest
  termination_by as bs => as.length + bs.length

def inter (s t : CharSet) : CharSet := ⟨(interRanges s.ranges.toList t.ranges.toList).toArray⟩

def diffRanges : List CharRange → List CharRange → List CharRange
  | [], _ => []
  | as, [] => as
  | a :: as, b :: bs =>
    if b.last < a.first then diffRanges (a :: as) bs
    else if a.last < b.first then a :: diffRanges as (b :: bs)
    else
      let rest :=
        if b.last < a.last then diffRanges (⟨codeAfter b.last, a.last⟩ :: as) bs
        else diffRanges as (b :: bs)
      if a.first < b.first then ⟨a.first, codeBefore b.first⟩ :: rest else rest
  termination_by as bs => as.length + 2 * bs.length

def diff (s t : CharSet) : CharSet := ⟨(diffRanges s.ranges.toList t.ranges.toList).toArray⟩

/-- The members of exactly one of two sets. -/
def either (s t : CharSet) : CharSet := (s.union t).diff (s.inter t)

/-- The gaps between ranges. Where two ranges have only surrogates between them, the gap's ends
are in the wrong order; both of them then belong to the complement as well. -/
def gaps : List CharRange → List CharRange
  | a :: b :: rest => .between (codeAfter a.last) (codeBefore b.first) :: gaps (b :: rest)
  | _ => []

def complement (s : CharSet) : CharSet :=
  match s.ranges[0]?, s.ranges.back? with
  | some first, some last =>
    let before := if 0 < first.first then [⟨0, codeBefore first.first⟩] else []
    let after := if last.last < lastCode then [⟨codeAfter last.last, lastCode⟩] else []
    ⟨(before ++ gaps s.ranges.toList ++ after).toArray⟩
  | _, _ => full

/-! ### Tables -/

def hexNumber (digits : List Char) : Nat :=
  digits.foldl (fun n d => n * 16 + (Hex.value? d.toLower).getD 0) 0

/-- Reads an entry of a table: a code point, the ends of a range with a hyphen between them, or
a range of which every second code point counts, marked by an asterisk. -/
def entry (word : List Char) : List CharRange :=
  let step := if word.contains '*' then 2 else 1
  match pieces (· == '-') (word.filter (· != '*')) with
  | [first, last] => CharRange.every step ⟨hexNumber first, hexNumber last⟩
  | [code] => [.single (hexNumber code)]
  | _ => []

/-- A set from a table of entries with blanks between them. -/
def ofTable (lines : List String) : CharSet :=
  ofRanges (lines.flatMap fun line =>
    ((pieces (· == ' ') line.toList).filter fun w => !w.isEmpty).flatMap entry)

end CharSet

end Roster

import Roster.Pattern.Property
import Roster.Pattern.Regex

/-! # What written patterns mean

Without the Unicode flag, classes and edges of words know ASCII only, and whatever could match a
single byte of a longer character is refused. -/

namespace Roster.Pattern

/-- Adds the other case of ASCII letters. -/
def foldAscii (s : CharSet) : CharSet :=
  let lower := s.inter (.range 0x61 0x7A)
  let upper := s.inter (.range 0x41 0x5A)
  .ofRanges (s.ranges.toList ++ lower.ranges.toList.map (fun r => ⟨r.first - 32, r.last - 32⟩)
    ++ upper.ranges.toList.map fun r => ⟨r.first + 32, r.last + 32⟩)

namespace Flags

def fold (f : Flags) (s : CharSet) : CharSet :=
  if !f.ignoreCase then s else if f.unicode then s.foldCase else foldAscii s

/-- The complement of a set of bytes would hold parts of characters. -/
def negate? (f : Flags) (negated : Bool) (s : CharSet) : Option CharSet :=
  if !negated then some s else if f.unicode then some s.complement else none

end Flags

def ShortClass.unicodeSet : ShortClass → CharSet
  | digit => digitSet
  | blank => blankSet
  | word => wordSet

def ShortClass.asciiSet : ShortClass → CharSet
  | digit => (asciiSet? "digit").getD .empty
  | blank => (asciiSet? "space").getD .empty
  | word => (asciiSet? "word").getD .empty

/-! ### Classes -/

/-- Whether a character can be a member of a class. -/
def Literal.allowed (l : Literal) (f : Flags) : Bool := f.unicode || l.char.toNat < 128

def Member.set? (f : Flags) : Member → Option CharSet
  | literal l => if l.allowed f then some (.single l.char) else none
  | range a b =>
    if a.allowed f && b.allowed f then some (.range a.char.toNat b.char.toNat) else none
  | ascii s negated => f.negate? negated (f.fold s)
  | short c negated => f.negate? negated (if f.unicode then c.unicodeSet else c.asciiSet)
  | named s negated => if f.unicode then f.negate? negated (f.fold s) else none

def ClassOperator.apply : ClassOperator → CharSet → CharSet → CharSet
  | inter => .inter
  | diff => .diff
  | either => .either

namespace ClassTree

mutual

def set? (f : Flags) : ClassTree → Option CharSet
  | member m => m.set? f
  | nested negated c =>
    match set? f c with
    | some s => f.negate? negated (f.fold s)
    | none => none
  | union cs => union? f [] cs
  | operation op left right =>
    match set? f left, set? f right with
    | some a, some b => some (op.apply (f.fold a) (f.fold b))
    | _, _ => none

def union? (f : Flags) (done : List CharSet) : List ClassTree → Option CharSet
  | [] => some (.unions done)
  | c :: cs =>
    match set? f c with
    | some s => union? f (s :: done) cs
    | none => none

end

end ClassTree

/-! ### Patterns -/

/-- A character. One above ASCII that is given as a byte is no whole character. -/
def Literal.regex? (f : Flags) (l : Literal) : Option Regex :=
  if !f.unicode && l.byte && 128 ≤ l.char.toNat then none
  else if !f.ignoreCase then some (.text [l.char])
  else if f.unicode then some (.ofSet (.ofRanges ((CaseFold.variants l.char).map .single)))
  else some (.ofSet (foldAscii (.single l.char)))

def dot? (f : Flags) : Option Regex :=
  if !f.unicode then none
  else if f.dotAll then some (.oneOf .full)
  else if f.crlf then some (.oneOf (CharSet.complement (.ofTable ["A D"])))
  else some (.oneOf (CharSet.complement (.ofTable ["A"])))

def Anchor.place (f : Flags) : Anchor → Place
  | textStart => .textStart
  | textEnd => .textEnd
  | lineStart => if f.multiLine then .lineStart f.crlf else .textStart
  | lineEnd => if f.multiLine then .lineEnd f.crlf else .textEnd
  | word edge => .word edge f.unicode

def GroupKind.inner (f : Flags) : GroupKind → Flags
  | captured _ => f
  | plain switches => f.setAll switches

def GroupKind.wrap : GroupKind → Regex → Regex
  | captured index => .captured index
  | plain _ => id

namespace Tree

mutual

/-- The meaning of a pattern under flags, and the flags behind it. -/
def meaning? (f : Flags) : Tree → Option (Regex × Flags)
  | empty => some (.empty, f)
  | switch switches => some (.empty, f.setAll switches)
  | literal l => (l.regex? f).map (·, f)
  | dot => (dot? f).map (·, f)
  | anchor a => some (.place (a.place f), f)
  | member m => (m.set? f).map fun s => (.ofSet s, f)
  | brackets negated c =>
    match c.set? f with
    | some s => (f.negate? negated (f.fold s)).map fun s => (.ofSet s, f)
    | none => none
  | repeated least most greedy t =>
    match meaning? f t with
    | some (r, f) => some (.rounds least most (greedy != f.swapGreed) r, f)
    | none => none
  | group kind t =>
    match meaning? (kind.inner f) t with
    | some (r, _) => some (kind.wrap r, f)
    | none => none
  | concat ts =>
    match meanings? f [] ts with
    | some (rs, f) => some (.concat rs, f)
    | none => none
  | alternation ts =>
    match meanings? f [] ts with
    | some (rs, f) => some (.choice rs, f)
    | none => none

/-- The meanings of parts, each under the flags behind the one before. -/
def meanings? (f : Flags) (done : List Regex) : List Tree → Option (List Regex × Flags)
  | [] => some (done.reverse, f)
  | t :: ts =>
    match meaning? f t with
    | some (r, f) => meanings? f (r :: done) ts
    | none => none

end

end Tree

end Roster.Pattern

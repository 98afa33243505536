import Roster.Binary64
import Roster.Toml

/-! # Scalars of a configuration file

Each reader takes its value off the front of a text and gives the rest back. -/

namespace Roster.Toml

/-- A character that may stand in a comment or a text. -/
def isPrintable (c : Char) : Bool :=
  c == '\t' || (32 ≤ c.toNat && c.toNat != 127)

def dropSpace (cs : List Char) : List Char := cs.dropWhile fun c => c == ' ' || c == '\t'

/-- A line end is a line feed, with or without a carriage return before it. -/
def newline? : List Char → Option (List Char)
  | '\n' :: rest => some rest
  | '\r' :: '\n' :: rest => some rest
  | _ => none

/-! ### Texts -/

def isHexDigit (c : Char) : Bool := c.isDigit || ('a' ≤ c && c ≤ 'f') || ('A' ≤ c && c ≤ 'F')

def hexValue (c : Char) : Nat :=
  if c.isDigit then c.toNat - 48 else if c.isUpper then c.toNat - 55 else c.toNat - 87

/-- A character given by a fixed number of hex digits. -/
def codePoint? (count : Nat) (cs : List Char) : Option (Char × List Char) :=
  let digits := cs.take count
  let n := digits.foldl (fun n c => n * 16 + hexValue c) 0
  if digits.length = count ∧ digits.all isHexDigit ∧ n.isValidChar then
    some (Char.ofNat n, cs.drop count)
  else none

/-- Reads what follows a backslash. -/
def escape? : List Char → Option (Char × List Char)
  | 'b' :: rest => some ('\x08', rest)
  | 't' :: rest => some ('\t', rest)
  | 'n' :: rest => some ('\n', rest)
  | 'f' :: rest => some ('\x0c', rest)
  | 'r' :: rest => some ('\r', rest)
  | '"' :: rest => some ('"', rest)
  | '\\' :: rest => some ('\\', rest)
  | 'u' :: rest => codePoint? 4 rest
  | 'U' :: rest => codePoint? 8 rest
  | _ => none

/-- The rest of a text on one line; `done` holds what is read, last first. -/
def quoted? (fuel : Nat) (done : List Char) (cs : List Char) : Option (String × List Char) :=
  match fuel, cs with
  | _, '"' :: rest => some (String.ofList done.reverse, rest)
  | fuel + 1, '\\' :: rest =>
    match escape? rest with
    | some (c, rest) => quoted? fuel (c :: done) rest
    | none => none
  | fuel + 1, c :: rest => if isPrintable c then quoted? fuel (c :: done) rest else none
  | _, _ => none

/-- A text without escapes on one line. -/
def literal? (cs : List Char) : Option (String × List Char) :=
  let body := cs.takeWhile fun c => c != '\'' && isPrintable c
  match cs.drop body.length with
  | '\'' :: rest => some (String.ofList body, rest)
  | _ => none

/-- Closes a text of several lines: of three to five quotes the last three end it. -/
def closeLong? (quote : Char) (done : List Char) (cs : List Char) : Option (String × List Char) :=
  let run := (cs.takeWhile (· == quote)).length
  if run < 3 then none
  else
    let extra := min (run - 3) 2
    some (String.ofList (List.replicate extra quote ++ done).reverse, cs.drop (3 + extra))

/-- Blanks and line ends behind a backslash at the end of a line; the line end must be there. -/
def continuation? (cs : List Char) : Option (List Char) :=
  match newline? (dropSpace cs) with
  | some rest => some (dropLines rest.length rest)
  | none => none
where
  dropLines : Nat → List Char → List Char
    | 0, cs => cs
    | fuel + 1, cs =>
      match newline? (dropSpace cs) with
      | some rest => dropLines fuel rest
      | none => dropSpace cs

/-- The rest of a text of several lines. -/
def longQuoted? (fuel : Nat) (done : List Char) (cs : List Char) : Option (String × List Char) :=
  match closeLong? '"' done cs, fuel, cs with
  | some r, _, _ => some r
  | none, fuel + 1, '\\' :: rest =>
    match continuation? rest, escape? rest with
    | some rest, _ => longQuoted? fuel done rest
    | none, some (c, rest) => longQuoted? fuel (c :: done) rest
    | none, none => none
  | none, fuel + 1, c :: rest =>
    match newline? (c :: rest) with
    | some rest => longQuoted? fuel ('\n' :: done) rest
    | none => if isPrintable c then longQuoted? fuel (c :: done) rest else none
  | none, _, _ => none

/-- The rest of a text of several lines without escapes. -/
def longLiteral? (fuel : Nat) (done : List Char) (cs : List Char) : Option (String × List Char) :=
  match closeLong? '\'' done cs, fuel, cs with
  | some r, _, _ => some r
  | none, fuel + 1, c :: rest =>
    match newline? (c :: rest) with
    | some rest => longLiteral? fuel ('\n' :: done) rest
    | none => if isPrintable c then longLiteral? fuel (c :: done) rest else none
  | none, _, _ => none

/-- A line end right behind the opening quotes does not count. -/
def dropFirstNewline (cs : List Char) : List Char := (newline? cs).getD cs

def text? : List Char → Option (String × List Char)
  | '"' :: '"' :: '"' :: rest =>
    let rest := dropFirstNewline rest
    longQuoted? rest.length [] rest
  | '\'' :: '\'' :: '\'' :: rest =>
    let rest := dropFirstNewline rest
    longLiteral? rest.length [] rest
  | '"' :: rest => quoted? rest.length [] rest
  | '\'' :: rest => literal? rest
  | _ => none

/-! ### Numbers -/

/-- Digits with single underscores between them, without the underscores. -/
def digits? (isDigit : Char → Bool) (cs : List Char) : Option (List Char × List Char) :=
  let run := cs.takeWhile fun c => isDigit c || c == '_'
  let ds := run.filter (· != '_')
  let single := !(run.zip (run.drop 1)).any fun p => p.1 == '_' && p.2 == '_'
  if run.isEmpty || run.head? == some '_' || run.getLast? == some '_' || !single then none
  else some (ds, cs.drop run.length)

def ofDigits (radix : Nat) (ds : List Char) : Nat := ds.foldl (fun n c => n * radix + hexValue c) 0

def sign (cs : List Char) : Option Bool × List Char :=
  match cs with
  | '-' :: rest => (some true, rest)
  | '+' :: rest => (some false, rest)
  | _ => (none, cs)

/-- Whole numbers are words of sixty-four bits with a sign. -/
def inWord (n : Int) : Option Toml :=
  if -9223372036854775808 ≤ n ∧ n ≤ 9223372036854775807 then some (.int n) else none

/-- Digits without a leading zero, unless they are a zero alone. -/
def decimal? (cs : List Char) : Option (List Char × List Char) := do
  let (ds, rest) ← digits? Char.isDigit cs
  if ds.head? == some '0' && 1 < ds.length then none
  return (ds, rest)

def exponent? : List Char → Option (Int × List Char)
  | c :: rest =>
    if c == 'e' || c == 'E' then do
      let (negative, unsigned) := sign rest
      let (ds, rest) ← digits? Char.isDigit unsigned
      let n : Int := ofDigits 10 ds
      return (if negative == some true then -n else n, rest)
    else none
  | [] => none

def fraction? : List Char → Option (List Char × List Char)
  | '.' :: rest => digits? Char.isDigit rest
  | _ => none

/-- A float too large for 64 bits is refused, unless it is negative. -/
def inRange? (negative : Option Bool) (ds : List Char) (exponent : Int) : Option Toml :=
  if negative != some true && (Binary64.ofDecimal (ofDigits 10 ds) exponent).isInfinite then none
  else some .float

def float? (cs : List Char) : Option (Toml × List Char) :=
  let (negative, unsigned) := sign cs
  match unsigned with
  | 'i' :: 'n' :: 'f' :: rest => some (.float, rest)
  | 'n' :: 'a' :: 'n' :: rest => some (.float, rest)
  | unsigned => do
    let (ds, rest) ← decimal? unsigned
    match fraction? rest with
    | some (fs, rest) =>
      let (exponent, rest) := (exponent? rest).getD (0, rest)
      return (← inRange? negative (ds ++ fs) (exponent - fs.length), rest)
    | none =>
      let (exponent, rest) ← exponent? rest
      return (← inRange? negative ds exponent, rest)

def integer? (cs : List Char) : Option (Toml × List Char) :=
  match cs with
  | '0' :: 'x' :: rest => do
    let (ds, rest) ← digits? isHexDigit rest
    return (← inWord (ofDigits 16 ds), rest)
  | '0' :: 'o' :: rest => do
    let (ds, rest) ← digits? (fun c => '0' ≤ c && c ≤ '7') rest
    return (← inWord (ofDigits 8 ds), rest)
  | '0' :: 'b' :: rest => do
    let (ds, rest) ← digits? (fun c => c == '0' || c == '1') rest
    return (← inWord (ofDigits 2 ds), rest)
  | _ => do
    let (negative, unsigned) := sign cs
    let (ds, rest) ← decimal? unsigned
    let n : Int := ofDigits 10 ds
    return (← inWord (if negative == some true then -n else n), rest)

/-! ### Dates -/

/-- A number of a fixed count of digits, inside bounds. -/
def fixed? (count low high : Nat) (cs : List Char) : Option (Nat × List Char) :=
  let ds := cs.take count
  let n := ofDigits 10 ds
  if ds.length = count ∧ ds.all Char.isDigit ∧ low ≤ n ∧ n ≤ high then some (n, cs.drop count) else none

def char? (c : Char) : List Char → Option (List Char)
  | d :: rest => if d == c then some rest else none
  | [] => none

def daysIn (year month : Nat) : Nat :=
  if month = 2 then (if year % 4 = 0 ∧ (year % 100 ≠ 0 ∨ year % 400 = 0) then 29 else 28)
  else if [4, 6, 9, 11].contains month then 30
  else 31

def day? (cs : List Char) : Option (List Char) := do
  let (year, cs) ← fixed? 4 0 9999 cs
  let (month, cs) ← fixed? 2 1 12 (← char? '-' cs)
  let (_, cs) ← fixed? 2 1 (daysIn year month) (← char? '-' cs)
  return cs

def time? (cs : List Char) : Option (List Char) := do
  let (_, cs) ← fixed? 2 0 23 cs
  let (_, cs) ← fixed? 2 0 59 (← char? ':' cs)
  let (_, cs) ← fixed? 2 0 60 (← char? ':' cs)
  match cs with
  | '.' :: rest =>
    let ds := rest.takeWhile Char.isDigit
    if ds.isEmpty then none else return rest.drop ds.length
  | _ => return cs

def offset? : List Char → Option (List Char)
  | 'Z' :: rest => some rest
  | 'z' :: rest => some rest
  | c :: rest =>
    if c == '+' || c == '-' then do
      let (_, cs) ← fixed? 2 0 23 rest
      let (_, cs) ← fixed? 2 0 59 (← char? ':' cs)
      return cs
    else none
  | [] => none

/-- A day, a time, or both with or without an offset. -/
def date? (cs : List Char) : Option (Toml × List Char) :=
  match day? cs with
  | some rest =>
    let timed := match rest with
      | c :: after => if c == 'T' || c == 't' || c == ' ' then time? after else none
      | [] => none
    match timed with
    | some rest => some (.date, (offset? rest).getD rest)
    | none => some (.date, rest)
  | none => (time? cs).map fun rest => (.date, rest)

/-- A value that holds no other value. -/
def scalar? (cs : List Char) : Option (Toml × List Char) :=
  match cs with
  | 't' :: 'r' :: 'u' :: 'e' :: rest => some (.bool true, rest)
  | 'f' :: 'a' :: 'l' :: 's' :: 'e' :: rest => some (.bool false, rest)
  | c :: _ =>
    if c == '"' || c == '\'' then (text? cs).map fun (s, rest) => (.text s, rest)
    else (date? cs).or ((float? cs).or (integer? cs))
  | [] => none

end Roster.Toml

import Roster.Binary64
import Roster.Json
import Roster.Token.Hex

/-! # Reading JSON

The whole text must be one value, with blanks around it at most. Of two fields with one key the
later counts, and fields come in ascending order of their keys. Values may be nested 127 deep. -/

namespace Roster.Json.Parser

def isBlank (c : Char) : Bool := c == ' ' || c == '\t' || c == '\n' || c == '\r'

def skipBlanks (cs : List Char) : List Char := cs.dropWhile isBlank

def isDigit (c : Char) : Bool := '0' ≤ c && c ≤ '9'

def digitsValue (digits : List Char) : Nat := digits.foldl (fun n c => n * 10 + (c.toNat - 48)) 0

/-- Takes at least one digit. -/
def digits? (cs : List Char) : Option (List Char × List Char) :=
  match cs.takeWhile isDigit with
  | [] => none
  | ds => some (ds, cs.dropWhile isDigit)

/-- Digits before the point; only a lone zero starts with zero. -/
def whole? (cs : List Char) : Option (List Char × List Char) := do
  let (ds, rest) ← digits? cs
  if ds.head? = some '0' ∧ ds.length ≠ 1 then none else some (ds, rest)

def fraction? : List Char → Option (List Char × List Char)
  | '.' :: cs => digits? cs
  | cs => some ([], cs)

def signed? : List Char → Option (Int × List Char)
  | '-' :: cs => (digits? cs).map fun (ds, rest) => (-(digitsValue ds : Int), rest)
  | '+' :: cs => (digits? cs).map fun (ds, rest) => ((digitsValue ds : Int), rest)
  | cs => (digits? cs).map fun (ds, rest) => ((digitsValue ds : Int), rest)

def exponent? : List Char → Option (Option Int × List Char)
  | 'e' :: cs | 'E' :: cs => (signed? cs).map fun (n, rest) => (some n, rest)
  | cs => some (none, cs)

/-- Whether a digit can still be added to a mantissa that fits a word of 64 bits. -/
def addDigit? (m : Nat) (c : Char) : Option Nat :=
  let n := m * 10 + (c.toNat - 48)
  if n < UInt64.size then some n else none

/-- The digits that fit a word, as a number, and those behind them. -/
def mantissa (m : Nat) : List Char → Nat × List Char
  | [] => (m, [])
  | c :: rest =>
    match addDigit? m c with
    | some n => mantissa n rest
    | none => (m, c :: rest)

/-- Divides by a power of ten in steps of at most 308 places. -/
def shrink (a : Binary64) (places : Nat) : Binary64 :=
  if _h : places ≤ 308 then a.div (.powerOfTen places)
  else if a.isZero then a
  else shrink (a.div (.powerOfTen 308)) (places - 308)
  termination_by places
  decreasing_by omega

/-- A word times a power of ten. Each step rounds, so the result need not be the nearest number;
infinity is refused. -/
def scale? (m : Nat) (places : Int) : Option Binary64 :=
  let a := Binary64.nearest m 1
  if places < 0 then some (shrink a places.natAbs)
  else if places ≤ 308 then
    let product := a.mul (.powerOfTen places.natAbs)
    if product.isInfinite then none else some product
  else if a.isZero then some a
  else none

def clampExponent (n : Int) : Int := max (-2147483648) (min n 2147483647)

/-- Scales a mantissa by what is written behind the letter of an exponent, which is a word of 32
bits; a longer one stands for zero or for infinity. -/
def withExponent? (m : Nat) (places exponent : Int) : Option Binary64 :=
  if exponent.natAbs ≤ 2147483647 then scale? m (clampExponent (places + exponent))
  else if m ≠ 0 ∧ 0 < exponent then none
  else some (.nearest 0 1)

/-- Whole numbers that fit a word of 64 bits are exact. Of other numbers the first digits that fit
a word count, those before the point that do not fit as zeros; once a digit does not fit, no digit
behind the point counts. -/
def numberOf (negative : Bool) (ds : List Char) (fraction : List Char) (exponent : Option Int) :
    Option Json :=
  let (m, dropped) := mantissa 0 ds
  let value : Int := if negative then -(m : Int) else m
  if fraction.isEmpty && exponent.isNone && dropped.isEmpty && !(negative && m == 0)
      && -9223372036854775808 ≤ value then
    some (.int value)
  else
    let (m, rest) := mantissa m fraction
    let places : Int := (dropped.length : Int) - (fraction.length - rest.length : Nat)
    let scaled := match exponent with
      | some e => withExponent? m places e
      | none => scale? m places
    scaled.map fun a => .decimal negative a.toDecimal.1 a.toDecimal.2

def number? (negative : Bool) (cs : List Char) : Option (Json × List Char) := do
  let (ds, cs) ← whole? cs
  let (fraction, cs) ← fraction? cs
  let (exponent, cs) ← exponent? cs
  let value ← numberOf negative ds fraction exponent
  return (value, cs)

def hexValue? (c : Char) : Option Nat := Hex.value? c.toLower

/-- Four hex digits in either case. -/
def unit? : List Char → Option (Nat × List Char)
  | a :: b :: c :: d :: rest => do
    let a ← hexValue? a
    let b ← hexValue? b
    let c ← hexValue? c
    let d ← hexValue? d
    return (((a * 16 + b) * 16 + c) * 16 + d, rest)
  | _ => none

/-- A character by its number; the numbers of surrogates come in pairs. -/
def escapedUnit? (cs : List Char) : Option (Char × List Char) := do
  let (high, cs) ← unit? cs
  if high < 0xD800 ∨ 0xE000 ≤ high then return (Char.ofNat high, cs)
  else if 0xDC00 ≤ high then none
  else
    match cs with
    | '\\' :: 'u' :: cs =>
      let (low, cs) ← unit? cs
      if 0xDC00 ≤ low ∧ low < 0xE000 then
        return (Char.ofNat (0x10000 + (high - 0xD800) * 0x400 + (low - 0xDC00)), cs)
      else none
    | _ => none

def escaped? : List Char → Option (Char × List Char)
  | 'u' :: cs => escapedUnit? cs
  | c :: cs =>
    let plain : Option Char := [('"', '"'), ('\\', '\\'), ('/', '/'), ('b', '\x08'), ('f', '\x0c'),
      ('n', '\n'), ('r', '\r'), ('t', '\t')].lookup c
    plain.map fun p => (p, cs)
  | [] => none

/-- Reads behind an opening quote; every step takes a character, so the text's length is enough
fuel. Characters already read are held last first. -/
def text? (fuel : Nat) (done : List Char) (cs : List Char) : Option (String × List Char) :=
  match fuel, cs with
  | 0, _ | _, [] => none
  | fuel + 1, c :: rest =>
    if c == '"' then some (String.ofList done.reverse, rest)
    else if c == '\\' then
      match escaped? rest with
      | some (e, rest) => text? fuel (e :: done) rest
      | none => none
    else if c.toNat < 32 then none
    else text? fuel (c :: done) rest

def key? (cs : List Char) : Option (String × List Char) :=
  match skipBlanks cs with
  | '"' :: rest => text? rest.length [] rest
  | _ => none

/-- Reads the items of an array behind those already read, which are held last first. -/
def items? (value? : List Char → Option (Json × List Char)) (fuel : Nat) (done : List Json)
    (cs : List Char) : Option (Json × List Char) :=
  match fuel with
  | 0 => none
  | fuel + 1 => do
    let (v, rest) ← value? cs
    match skipBlanks rest with
    | ',' :: rest => items? value? fuel (v :: done) rest
    | ']' :: rest => return (.array (v :: done).reverse, rest)
    | _ => none

/-- Reads the fields of an object behind those already read. -/
def fields? (value? : List Char → Option (Json × List Char)) (fuel : Nat)
    (done : List (String × Json)) (cs : List Char) : Option (Json × List Char) :=
  match fuel with
  | 0 => none
  | fuel + 1 => do
    let (key, rest) ← key? cs
    match skipBlanks rest with
    | ':' :: rest =>
      let (v, rest) ← value? rest
      let fields := insertField key v done
      match skipBlanks rest with
      | ',' :: rest => fields? value? fuel fields rest
      | '\x7d' :: rest => return (.object fields, rest)
      | _ => none
    | _ => none

/-- Reads a value; `room` bounds how deep it may be nested. -/
def value? : Nat → List Char → Option (Json × List Char)
  | 0, _ => none
  | room + 1, cs =>
    match skipBlanks cs with
    | 'n' :: 'u' :: 'l' :: 'l' :: rest => some (.null, rest)
    | 't' :: 'r' :: 'u' :: 'e' :: rest => some (.bool true, rest)
    | 'f' :: 'a' :: 'l' :: 's' :: 'e' :: rest => some (.bool false, rest)
    | '"' :: rest => (text? rest.length [] rest).map fun (s, rest) => (.text s, rest)
    | '[' :: rest =>
      if room = 0 then none
      else
        match skipBlanks rest with
        | ']' :: rest => some (.array [], rest)
        | _ => items? (value? room) rest.length [] rest
    | '\x7b' :: rest =>
      if room = 0 then none
      else
        match skipBlanks rest with
        | '\x7d' :: rest => some (.object [], rest)
        | _ => fields? (value? room) rest.length [] rest
    | '-' :: rest => number? true rest
    | rest => number? false rest

end Roster.Json.Parser

namespace Roster.Json

/-- Nesting at which a text is refused. -/
def depthLimit : Nat := 128

def parse? (s : String) : Option Json :=
  match Parser.value? depthLimit s.toList with
  | some (v, rest) => if (Parser.skipBlanks rest).isEmpty then some v else none
  | none => none

end Roster.Json

import Roster.Text.Break

/-! # Sets of characters by name

A pattern can name a general category, a script, a trait, an age or a class of the rules that
part text. Case, blanks, underscores and hyphens make no difference in a name, nor does a leading
"is". -/

namespace Roster.Pattern

/-- A name without what makes no difference. -/
def plainName (name : List Char) : String :=
  let kept := (name.filter fun c => c.toNat < 128).filter fun c => c != ' ' && c != '_' && c != '-'
  let leads := match name with
    | i :: s :: _ => i.toLower == 'i' && s.toLower == 's'
    | _ => false
  let short := String.ofList ((if leads then kept.drop 2 else kept).map Char.toLower)
  if leads && short == "c" then "isc" else short

/-- Every category, alone or with its kin, by its names. -/
def categories : List (List String × List Category) := [
  (["letter", "l"], Category.letters),
  (["casedletter", "lc"], [.uppercaseLetter, .lowercaseLetter, .titlecaseLetter]),
  (["uppercaseletter", "lu"], [.uppercaseLetter]),
  (["lowercaseletter", "ll"], [.lowercaseLetter]),
  (["titlecaseletter", "lt"], [.titlecaseLetter]),
  (["modifierletter", "lm"], [.modifierLetter]),
  (["otherletter", "lo"], [.otherLetter]),
  (["mark", "m", "combiningmark"], Category.marks),
  (["nonspacingmark", "mn"], [.nonspacingMark]),
  (["spacingmark", "mc"], [.spacingMark]),
  (["enclosingmark", "me"], [.enclosingMark]),
  (["number", "n"], Category.numbers),
  (["decimalnumber", "nd", "digit"], [.decimalNumber]),
  (["letternumber", "nl"], [.letterNumber]),
  (["othernumber", "no"], [.otherNumber]),
  (["punctuation", "p", "punct"], Category.punctuation),
  (["connectorpunctuation", "pc"], [.connectorPunctuation]),
  (["dashpunctuation", "pd"], [.dashPunctuation]),
  (["openpunctuation", "ps"], [.openPunctuation]),
  (["closepunctuation", "pe"], [.closePunctuation]),
  (["initialpunctuation", "pi"], [.initialPunctuation]),
  (["finalpunctuation", "pf"], [.finalPunctuation]),
  (["otherpunctuation", "po"], [.otherPunctuation]),
  (["symbol", "s"], Category.symbols),
  (["mathsymbol", "sm"], [.mathSymbol]),
  (["currencysymbol", "sc"], [.currencySymbol]),
  (["modifiersymbol", "sk"], [.modifierSymbol]),
  (["othersymbol", "so"], [.otherSymbol]),
  (["separator", "z"], Category.separators),
  (["spaceseparator", "zs"], [.spaceSeparator]),
  (["lineseparator", "zl"], [.lineSeparator]),
  (["paragraphseparator", "zp"], [.paragraphSeparator]),
  (["control", "cc", "cntrl"], [.control]),
  (["format", "cf"], [.format]),
  (["privateuse", "co"], [.privateUse]),
  (["unassigned", "cn"], [.unassigned])]

/-- The characters of a category. All code points that are no characters count as others. -/
def categorySet? (name : String) : Option CharSet :=
  if name = "any" then some .full
  else if name = "ascii" then some (.range 0 127)
  else if name = "assigned" then some (Trait.category .unassigned).complement
  else if name = "other" ∨ name = "c" then
    some (.union (.range 0xD800 0xDFFF)
      (Trait.categories [.control, .format, .privateUse, .unassigned]))
  else (categories.find? fun c => c.1.contains name).map fun c => Trait.categories c.2

/-- A version is written with a point, or without one behind a "v". -/
def ageSet? (name : String) : Option CharSet :=
  let named := fun version : String =>
    name == version || name.toList == 'v' :: version.toList.filter (· != '.')
  match (Age.additions.map (·.1)).find? named with
  | some version => if version = "17.0" then none else Age.upTo? version
  | none => none

/-- The set that a single name stands for. Where a trait and a category share a short name, it
is the category. -/
def setNamed? (name : List Char) : Option CharSet :=
  let name := plainName name
  let trait := if name = "cf" ∨ name = "sc" ∨ name = "lc" then none else Trait.set? name
  match trait with
  | some s => some s
  | none =>
    match categorySet? name with
    | some s => some s
    | none => Script.set? name

/-- The set of characters with a value of a property. -/
def setWith? (property value : List Char) : Option CharSet :=
  let property := plainName property
  let value := plainName value
  if property = "generalcategory" ∨ property = "gc" then categorySet? value
  else if property = "script" ∨ property = "sc" then Script.set? value
  else if property = "scriptextensions" ∨ property = "scx" then Script.extendedSet? value
  else if property = "age" then ageSet? value
  else if property = "graphemeclusterbreak" ∨ property = "gcb" then
    Break.find? Break.graphemeClasses value
  else if property = "wordbreak" ∨ property = "wb" then Break.find? Break.wordClasses value
  else if property = "sentencebreak" ∨ property = "sb" then
    Break.find? Break.sentenceClasses value
  else none

/-- The characters of words. -/
def wordSet : CharSet :=
  .unions [(Trait.set? "alphabetic").getD .empty, (Trait.set? "joincontrol").getD .empty,
    Trait.categories (.decimalNumber :: .connectorPunctuation :: Category.marks)]

def digitSet : CharSet := Trait.category .decimalNumber

def blankSet : CharSet := Property.whiteSpace

/-- The classes of ASCII characters. -/
def asciiSet? : String → Option CharSet
  | "alnum" => some (.ofTable ["30-39 41-5A 61-7A"])
  | "alpha" => some (.ofTable ["41-5A 61-7A"])
  | "ascii" => some (.range 0 127)
  | "blank" => some (.ofTable ["9 20"])
  | "cntrl" => some (.ofTable ["0-1F 7F"])
  | "digit" => some (.ofTable ["30-39"])
  | "graph" => some (.ofTable ["21-7E"])
  | "lower" => some (.ofTable ["61-7A"])
  | "print" => some (.ofTable ["20-7E"])
  | "punct" => some (.ofTable ["21-2F 3A-40 5B-60 7B-7E"])
  | "space" => some (.ofTable ["9-D 20"])
  | "upper" => some (.ofTable ["41-5A"])
  | "word" => some (.ofTable ["30-39 41-5A 5F 61-7A"])
  | "xdigit" => some (.ofTable ["30-39 41-46 61-66"])
  | _ => none

end Roster.Pattern

import Roster.Text.Script
import Roster.Text.Trait

/-! # Where text can be parted

Three rules part a text into what a reader takes for characters, into words and into sentences.
Each rule looks at the class of a character, and no character is in two classes of one rule.
A class goes by a name and often by a short one, both without underscores. -/

namespace Roster.Break

def carriageReturn : CharSet := .ofTable ["D"]

def lineFeed : CharSet := .ofTable ["A"]

def joiner : CharSet := .ofTable ["200D"]

def regionalIndicator : CharSet := Trait.plainSet "regionalindicator"

def script (name : String) : CharSet := (Script.set? name).getD .empty

/-- Characters without a place of their own, and the tones of skin. -/
def extending : CharSet :=
  (Trait.graphemeExtend.union (Trait.plainSet "emojimodifier")).diff joiner

/-! ### Characters as a reader sees them -/

/-- Characters that belong to the one behind them. -/
def prepended : CharSet :=
  CharSet.union (Trait.plainSet "prependedconcatenationmark") (.ofTable [
    "D4E 111C2-111C3 113D1 1193F 11941 11A3A 11A84-11A89 11D46 11F02"])

def controls : CharSet :=
  CharSet.diff
    (.union (Trait.categories [.lineSeparator, .paragraphSeparator, .control, .format])
      ((Trait.category .unassigned).inter Property.defaultIgnorable))
    (.unions [carriageReturn, lineFeed, prepended, extending, .ofTable ["200C-200D"]])

/-- Marks that stand behind a letter, but for those that no reader takes for a part of it. -/
def spacing : CharSet :=
  CharSet.diff (.union (Trait.category .spacingMark) (.ofTable ["E33 EB3"]))
    (extending.union (.ofTable [
      "102B-102C 1038 1062-1064 1067-106D 1083 1087-108C 108F 109A-109C 1A61 1A63-1A64 AA7B AA7D",
      "11720-11721"]))

/-- Every block of this many syllables opens with the one that has no last part. -/
def syllableStep : Nat := 28

def syllables : CharRange := ⟨0xAC00, 0xD7A3⟩

def openSyllables : CharSet := .ofRanges (CharRange.every syllableStep syllables)

def closedSyllables : CharSet := CharSet.diff ⟨#[syllables]⟩ openSyllables

def graphemeClasses : List (List String × CharSet) := [
  (["cr"], carriageReturn),
  (["lf"], lineFeed),
  (["control", "cn"], controls),
  (["extend", "ex"], extending),
  (["zwj"], joiner),
  (["regionalindicator", "ri"], regionalIndicator),
  (["prepend", "pp"], prepended),
  (["spacingmark", "sm"], spacing),
  (["l"], .ofTable ["1100-115F A960-A97C"]),
  (["v"], .ofTable ["1160-11A7 D7B0-D7C6 16D63 16D67-16D6A"]),
  (["t"], .ofTable ["11A8-11FF D7CB-D7FB"]),
  (["lv"], openSyllables),
  (["lvt"], closedSyllables)]

/-! ### Words -/

/-- Characters of a number. -/
def numeric : CharSet :=
  CharSet.union (Trait.category .decimalNumber) (.ofTable [
    "600-605 66B-66C 6DD 890-891 8E2 110BD 110CD"])

def wordExtending : CharSet := extending.union (Trait.category .spacingMark)

def wordFormat : CharSet :=
  CharSet.diff (Trait.category .format)
    (.unions [wordExtending, numeric, .ofTable ["200B 200D"]])

def katakana : CharSet :=
  CharSet.union (script "katakana") (.ofTable ["3031-3035 309B-309C 30A0 30FC FF70"])

def hebrewLetter : CharSet := (script "hebrew").inter (Trait.category .otherLetter)

/-- Letters of scripts that write words without blanks between them. -/
def unspaced : CharSet := .ofTable [
    "E01-E30 E32-E33 E40-E46 E81-E82 E84 E86-E8A E8C-EA3 EA5 EA7-EB0 EB2-EB3 EBD EC0-EC4 EC6",
    "EDC-EDF 1000-102A 103F 1050-1055 105A-105D 1061 1065-1066 106E-1070 1075-1081 108E",
    "1780-17B3 17D7 17DC 1950-196D 1970-1974 1980-19AB 19B0-19C9 1A20-1A54 1AA7 A9E0-A9E4",
    "A9E6-A9EF A9FA-A9FE AA60-AA76 AA7A AA7E-AAAF AAB1 AAB5-AAB6 AAB9-AABD AAC0 AAC2 AADB-AADD",
    "11700-1171A 11740-11746"]

/-- Letters that make words with others of their kind. -/
def wordLetter : CharSet :=
  CharSet.diff
    (.union (Trait.settled Property.alphabetic) (.ofTable [
      "B8 2C2-2C5 2D2-2D7 2DE-2DF 2E5-2EB 2ED 2EF-2FF 55A-55C 55E 58A 5F3 70F A708-A716 A720-A721",
      "A789-A78A AB5B"]))
    (.unions [Trait.plainSet "ideographic", katakana, script "hiragana", unspaced, wordExtending,
      wordFormat, hebrewLetter])

def wordClasses : List (List String × CharSet) := [
  (["cr"], carriageReturn),
  (["lf"], lineFeed),
  (["newline", "nl"], .ofTable ["B-C 85 2028-2029"]),
  (["extend"], wordExtending),
  (["zwj"], joiner),
  (["regionalindicator", "ri"], regionalIndicator),
  (["format", "fo"], wordFormat),
  (["katakana", "ka"], katakana),
  (["hebrewletter", "hl"], hebrewLetter),
  (["aletter", "le"], wordLetter),
  (["singlequote", "sq"], .ofTable ["27"]),
  (["doublequote", "dq"], .ofTable ["22"]),
  (["midnumlet", "mb"], .ofTable ["2E 2018-2019 2024 FE52 FF07 FF0E"]),
  (["midletter", "ml"], .ofTable ["3A B7 387 55F 5F4 2027 FE13 FE55 FF1A"]),
  (["midnum", "mn"], .ofTable [
    "2C 3B 37E 589 60C-60D 66C 7F8 2044 FE10 FE14 FE50 FE54 FF0C FF1B"]),
  (["numeric", "nu"], numeric.diff (.ofTable ["66C"])),
  (["extendnumlet", "ex"], (Trait.category .connectorPunctuation).union (.ofTable ["202F"])),
  (["wsegspace"], (Trait.category .spaceSeparator).diff (.ofTable ["A0 2007 202F"]))]

/-! ### Sentences -/

def sentenceExtending : CharSet :=
  .unions [Trait.graphemeExtend, joiner, Trait.category .spacingMark]

def sentenceSeparator : CharSet := .ofTable ["85 2028-2029"]

/-- Letters of a script whose capital forms start no sentences. -/
def capitalForms : CharSet := .ofTable ["1C90-1CBA 1CBD-1CBF"]

/-- The plain forms of the same letters. -/
def plainForms : CharSet := .ofTable ["10D0-10FA 10FD-10FF"]

def sentenceLower : CharSet := Trait.lowercase.diff (Trait.graphemeExtend.union plainForms)

def sentenceUpper : CharSet :=
  (Trait.uppercase.union (Trait.category .titlecaseLetter)).diff capitalForms

def sentenceLetter : CharSet :=
  CharSet.diff (.union (Trait.settled Property.alphabetic) (.ofTable ["5F3"]))
    (.unions [sentenceLower, sentenceUpper, sentenceExtending])

/-- Points that end a sentence unless what follows says otherwise. -/
def ambiguousEnd : CharSet := .ofTable ["2E 2024 FE52 FF0E"]

def sentenceEnd : CharSet := (Trait.plainSet "sentenceterminal").diff ambiguousEnd

def closing : CharSet :=
  CharSet.diff
    (.union (.ofTable ["22 27 275B-2760 2E00-2E01 2E06-2E08 2E0B 1F676-1F678"])
      (Trait.categories [.openPunctuation, .closePunctuation, .initialPunctuation,
        .finalPunctuation]))
    (ambiguousEnd.union sentenceEnd)

def sentenceClasses : List (List String × CharSet) := [
  (["cr"], carriageReturn),
  (["lf"], lineFeed),
  (["extend", "ex"], sentenceExtending),
  (["sep", "se"], sentenceSeparator),
  (["format", "fo"], CharSet.diff (Trait.category .format)
    (.unions [sentenceExtending, numeric, .ofTable ["200C"]])),
  (["sp"], CharSet.diff Property.whiteSpace
    (.unions [sentenceSeparator, carriageReturn, lineFeed])),
  (["lower", "lo"], sentenceLower),
  (["upper", "up"], sentenceUpper),
  (["oletter", "le"], sentenceLetter),
  (["numeric", "nu"], numeric),
  (["aterm", "at"], ambiguousEnd),
  (["sterm", "st"], sentenceEnd),
  (["close", "cl"], closing),
  (["scontinue", "sc"], .ofTable [
    "2C-2D 3A-3B 37E 55D 60C-60D 7F8 1802 1808 2013-2014 3001 FE10-FE11 FE13-FE14 FE31-FE32",
    "FE50-FE51 FE54-FE55 FE58 FE63 FF0C-FF0D FF1A-FF1B FF64"])]

/-- The class with a name among those of one rule. -/
def find? (classes : List (List String × CharSet)) (name : String) : Option CharSet :=
  (classes.find? fun c => c.1.contains name).map (·.2)

end Roster.Break

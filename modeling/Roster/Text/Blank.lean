import Roster.Text.Pieces

/-! # Blank characters

The characters of Unicode's `White_Space` property, and the two ways the program drops
them: at the ends of a text and between the words of a line. -/

namespace Roster

def isBlank (c : Char) : Bool :=
  let n := c.toNat
  (9 ≤ n && n ≤ 13) || n == 0x20 || n == 0x85 || n == 0xA0 || n == 0x1680
    || (0x2000 ≤ n && n ≤ 0x200A) || n == 0x2028 || n == 0x2029 || n == 0x202F
    || n == 0x205F || n == 0x3000

def dropBlank (cs : List Char) : List Char := cs.dropWhile isBlank

def dropBlankEnd (cs : List Char) : List Char := (dropBlank cs.reverse).reverse

def trim (s : String) : String := String.ofList (dropBlankEnd (dropBlank s.toList))

def trimEnd (s : String) : String := String.ofList (dropBlankEnd s.toList)

/-- Maximal runs of characters that are not blank. -/
def words (s : String) : List String :=
  ((pieces isBlank s.toList).filter (fun w => !w.isEmpty)).map String.ofList

end Roster

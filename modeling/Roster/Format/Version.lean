/-! # Format versions of a membership stream

A format version says which fields a record carries and which node types it can name. -/

namespace Roster

inductive FormatVersion where
  | v1
  | v2
  | v3
  deriving DecidableEq, Repr

namespace FormatVersion

def all : List FormatVersion := [v1, v2, v3]

def oldest : FormatVersion := v1

def newest : FormatVersion := v3

def code : FormatVersion → UInt16
  | v1 => 1
  | v2 => 2
  | v3 => 3

def ofCode? (n : UInt16) : Option FormatVersion := all.find? (fun v => v.code == n)

instance : LE FormatVersion := ⟨fun a b => a.code ≤ b.code⟩

instance : LT FormatVersion := ⟨fun a b => a.code < b.code⟩

instance (a b : FormatVersion) : Decidable (a ≤ b) := inferInstanceAs (Decidable (a.code ≤ b.code))

instance (a b : FormatVersion) : Decidable (a < b) := inferInstanceAs (Decidable (a.code < b.code))

/-- Secondary nodes exist from the third format on. -/
def carriesSecondary (v : FormatVersion) : Bool := decide (v3 ≤ v)

/-- Records name their software version from the second format on. -/
def carriesSoftware (v : FormatVersion) : Bool := decide (v2 ≤ v)

def text (v : FormatVersion) : String := toString v.code

theorem ofCode?_code (v : FormatVersion) : ofCode? v.code = some v := by
  cases v <;> decide

theorem code_of_ofCode? {n : UInt16} {v : FormatVersion} (h : ofCode? n = some v) : v.code = n := by
  simpa using List.find?_some h

end FormatVersion

end Roster

/-! # Values of a configuration file -/

namespace Roster

/-- Floats and dates are only told apart from other values; their content is not kept. -/
inductive Toml where
  | text (s : String)
  | int (n : Int)
  | float
  | bool (b : Bool)
  | date
  | array (items : List Toml)
  | table (fields : List (String × Toml))
  deriving Repr, Inhabited

end Roster

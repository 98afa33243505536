/-! # Holds on names

A name is held once for each holder and is free again when the last of them has let go. -/

namespace Roster

/-- One entry for each hold, the latest first. -/
structure Holds where
  names : List String
  deriving DecidableEq, Repr

namespace Holds

def empty : Holds := ⟨[]⟩

def count (h : Holds) (name : String) : Nat := h.names.count name

def contains (h : Holds) (name : String) : Bool := h.names.contains name

def acquire (h : Holds) (name : String) : Holds := ⟨name :: h.names⟩

/-- Ends one hold on a name. -/
def release (h : Holds) (name : String) : Holds := ⟨h.names.erase name⟩

/-- Puts a name in its place among names in ascending order; one that is there already stays. -/
def place (name : String) : List String → List String
  | [] => [name]
  | n :: rest => if name < n then name :: n :: rest else if name = n then n :: rest else n :: place name rest

/-- The held names in ascending order, each once. -/
def held (h : Holds) : List String := h.names.foldl (fun sorted name => place name sorted) []

end Holds

end Roster

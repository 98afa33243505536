import Roster.Node
import Roster.Text.Utf8

/-! # The records of a group

Records are kept in ascending order of their names' bytes, which is also the order they are
written in, so no two records share a name. -/

namespace Roster

def Node.Precedes (a b : Node) : Prop := Utf8.Before a.name b.name

instance (a b : Node) : Decidable (Node.Precedes a b) :=
  inferInstanceAs (Decidable (Utf8.Before a.name b.name))

structure Records where
  toList : List Node
  ascending : toList.Pairwise Node.Precedes
  deriving DecidableEq

namespace Records

def empty : Records := ⟨[], .nil⟩

def size (r : Records) : Nat := r.toList.length

def find? (r : Records) (name : String) : Option Node := r.toList.find? (fun n => n.name == name)

/-- Puts a node in its place; a record that has its name already stays. -/
def insertInto (n : Node) : List Node → List Node
  | [] => [n]
  | m :: rest =>
    if n.Precedes m then n :: m :: rest
    else if n.name = m.name then m :: rest
    else m :: insertInto n rest

theorem mem_insertInto {n a : Node} {nodes : List Node} (h : a ∈ insertInto n nodes) :
    a = n ∨ a ∈ nodes := by
  fun_induction insertInto n nodes with
  | case1 => simpa using h
  | case2 => simpa using h
  | case3 => exact Or.inr h
  | case4 m rest _ _ ih =>
    rcases List.mem_cons.mp h with h | h
    · exact Or.inr (h ▸ List.mem_cons_self)
    · exact (ih h).imp_right (List.mem_cons_of_mem m)

theorem ascending_insertInto {n : Node} {nodes : List Node} (h : nodes.Pairwise Node.Precedes) :
    (insertInto n nodes).Pairwise Node.Precedes := by
  fun_induction insertInto n nodes with
  | case1 => simp
  | case2 m rest hnm =>
    rw [List.pairwise_cons] at h ⊢
    refine ⟨fun a ha => ?_, List.pairwise_cons.mpr h⟩
    rcases List.mem_cons.mp ha with rfl | ha
    · exact hnm
    · exact Utf8.Before.trans hnm (h.1 a ha)
  | case3 => exact h
  | case4 m rest hnm hne ih =>
    rw [List.pairwise_cons] at h ⊢
    refine ⟨fun a ha => ?_, ih h.2⟩
    rcases mem_insertInto ha with rfl | ha
    · rcases Utf8.before_or_eq_or_before a.name m.name with hb | he | hb
      · exact absurd hb hnm
      · exact absurd he hne
      · exact hb
    · exact h.1 a ha

def insert (r : Records) (n : Node) : Records := ⟨insertInto n r.toList, ascending_insertInto r.ascending⟩

def erase (r : Records) (name : String) : Records :=
  ⟨r.toList.filter (fun n => n.name != name), r.ascending.filter _⟩

/-- Changes every record; names stay. -/
def map (r : Records) (f : Node → Node) (names : ∀ n, (f n).name = n.name) : Records :=
  ⟨r.toList.map f, List.pairwise_map.mpr (r.ascending.imp fun {a b} h => by
    simpa [Node.Precedes, names a, names b] using h)⟩

def restrict (r : Records) (format : FormatVersion) : Records :=
  r.map (fun n => n.restrict format) (fun n => by unfold Node.restrict; split <;> rfl)

/-- Marks the record of a name removed. -/
def markRemoved (r : Records) (name : String) (change : UInt32) : Records :=
  r.map (fun n => if n.name = name then { n with removed := true, change := change } else n)
    (fun n => by split <;> rfl)

/-- Moves the record of a name to another address. -/
def move (r : Records) (name host : String) (port : UInt16) (change : UInt32) : Records :=
  r.map (fun n => if n.name = name then { n with host := host, port := port, change := change } else n)
    (fun n => by split <;> rfl)

/-- Records of any state that are secondary. -/
def secondaryCount (r : Records) : Nat := r.toList.countP Node.isSecondary

/-- Records collected in ascending order, last first. -/
structure Builder where
  reversed : List Node
  descending : reversed.Pairwise (fun a b => b.Precedes a)

namespace Builder

def empty : Builder := ⟨[], .nil⟩

/-- Adds a record behind the last one, or gives the name it fails to come after. -/
def push (b : Builder) (n : Node) : Except String Builder :=
  match b with
  | ⟨[], _⟩ => .ok ⟨[n], by simp⟩
  | ⟨m :: rest, hd⟩ =>
    if h : m.Precedes n then
      .ok ⟨n :: m :: rest, List.pairwise_cons.mpr ⟨fun a ha => by
        rcases List.mem_cons.mp ha with rfl | ha
        · exact h
        · exact Utf8.Before.trans ((List.pairwise_cons.mp hd).1 a ha) h, hd⟩⟩
    else .error m.name

def records (b : Builder) : Records := ⟨b.reversed.reverse, List.pairwise_reverse.mpr b.descending⟩

end Builder

end Records

end Roster

import Mathlib.Tactic.SplitIfs
import Roster.Json
import Roster.Proofs.Text.Decimal

/-!
# JSON on one line

Texts are quoted with their control characters escaped, so the compact form of a value holds no
control character, whatever texts are in the value.
-/

namespace Roster

/-- A text without the control characters below the blank. -/
def NoControl (s : String) : Prop := ∀ c ∈ s.toList, 32 ≤ c.toNat

instance (s : String) : Decidable (NoControl s) := List.decidableBAll _ _

namespace NoControl

theorem append {s t : String} (hs : NoControl s) (ht : NoControl t) : NoControl (s ++ t) := by
  intro c mem
  rw [String.toList_append] at mem
  exact (List.mem_append.mp mem).elim (hs c) (ht c)

theorem intercalate {items : List String} (all : ∀ s ∈ items, NoControl s) :
    NoControl (",".intercalate items) := by
  intro c mem
  rw [String.toList_intercalate] at mem
  rcases mem_intercalate mem with rfl | ⟨item, hitem, inside⟩
  · decide
  · obtain ⟨s, hs, rfl⟩ := List.mem_map.mp hitem
    exact all s hs c inside

theorem of_isWord {w : String} (hw : IsWord w) : NoControl w :=
  fun c mem => Nat.le_of_lt (hw.visible c mem).1

end NoControl

namespace Json

theorem noControl_escapeChar (c : Char) : ∀ x ∈ escapeChar c, 32 ≤ x.toNat := by
  have digit : ∀ n < 16, 32 ≤ (hexDigitOf n).toNat := by decide
  rw [escapeChar]
  split_ifs
  iterate 7 exact List.forall_mem_cons.mpr ⟨by decide, List.forall_mem_singleton.mpr (by decide)⟩
  · rename_i small
    have high := digit (c.toNat / 16) (by omega)
    have low := digit (c.toNat % 16) (Nat.mod_lt _ (by decide))
    simp only [List.forall_mem_cons]
    exact ⟨by decide, by decide, by decide, by decide, high, low, List.forall_mem_nil _⟩
  · rename_i visible
    exact List.forall_mem_singleton.mpr (Nat.le_of_not_lt visible)

theorem noControl_quote (s : String) : NoControl (quote s) := by
  intro c mem
  rw [quote, String.toList_ofList, List.cons_append, List.mem_cons, List.mem_append, List.mem_flatMap] at mem
  rcases mem with rfl | ⟨x, -, hx⟩ | last
  · decide
  · exact noControl_escapeChar x c hx
  · obtain rfl := List.mem_singleton.mp last
    decide

theorem noControl_nat (n : Nat) : NoControl (toString n) := .of_isWord (Decimal.isWord_repr n)

theorem noControl_int (n : Int) : NoControl (toString n) := by
  cases n with
  | ofNat n => exact noControl_nat n
  | negSucc n => exact NoControl.append (by decide) (noControl_nat (n + 1))

theorem noControl_scalar (v : Json) : NoControl v.scalar := by
  cases v with
  | bool b => cases b <;> decide
  | int n => exact noControl_int n
  | decimal negative mantissa exponent =>
    have sign : NoControl (if negative then "-" else "") := by cases negative <;> decide
    have number : NoControl (toString mantissa ++ "e" ++ toString exponent) :=
      ((noControl_nat mantissa).append (by decide)).append (noControl_int exponent)
    exact sign.append number
  | text s => exact noControl_quote s
  | null => decide
  | array _ => exact (by decide : NoControl "[]")
  | object _ => exact (by decide : NoControl "\x7b\x7d")

mutual

theorem noControl_compact : (v : Json) → NoControl v.compact
  | .array items => by
    rw [compact]
    exact (NoControl.append (by decide) (.intercalate (noControl_compactItems items))).append (by decide)
  | .object fields => by
    rw [compact]
    exact (NoControl.append (by decide) (.intercalate (noControl_compactFields fields))).append (by decide)
  | .null | .bool _ | .int _ | .decimal _ _ _ | .text _ => noControl_scalar _

theorem noControl_compactItems : (items : List Json) → ∀ s ∈ compactItems items, NoControl s
  | [] => List.forall_mem_nil _
  | v :: rest => List.forall_mem_cons.mpr ⟨noControl_compact v, noControl_compactItems rest⟩

theorem noControl_compactFields : (fields : List (String × Json)) → ∀ s ∈ compactFields fields, NoControl s
  | [] => List.forall_mem_nil _
  | (key, v) :: rest => by
    have colon : NoControl ":" := by decide
    rw [compactFields]
    exact List.forall_mem_cons.mpr ⟨((noControl_quote key).append colon).append (noControl_compact v),
      noControl_compactFields rest⟩

end

end Json

end Roster

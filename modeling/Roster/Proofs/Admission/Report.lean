import Mathlib.Algebra.BigOperators.Group.List.Basic
import Mathlib.Algebra.GroupWithZero.Nat
import Roster.Admission.Reply
import Roster.Proofs.Text.Utf8

/-!
# How long a report is

A report has so many texts and numbers of the group and the names of the active members. Quoting makes
a text longer where characters are escaped.
-/

namespace Roster

namespace Utf8

/-- Texts between commas. -/
theorem size_intercalate (items : List String) :
    size (",".intercalate items) = (items.map fun item => 1 + size item).sum - 1 := by
  have comma : size "," = 1 := rfl
  induction items with
  | nil => rfl
  | cons first rest ih =>
    cases rest with
    | nil =>
      rw [String.intercalate_singleton, List.map_singleton, List.sum_singleton]
      omega
    | cons second rest =>
      rw [String.intercalate_cons_cons, size_append, size_append, ih, comma]
      simp only [List.map_cons, List.sum_cons]
      omega

end Utf8

namespace Json

theorem compactItems_eq (items : List Json) : compactItems items = items.map compact := by
  induction items with
  | nil => rfl
  | cons v rest ih => rw [compactItems, ih, List.map_cons]

theorem compactFields_eq (fields : List (String × Json)) :
    compactFields fields = fields.map fun field => quote field.1 ++ ":" ++ compact field.2 := by
  induction fields with
  | nil => rfl
  | cons field rest ih => rw [compactFields, ih, List.map_cons]

theorem size_array (items : List Json) : Utf8.size (array items).compact =
    2 + ((items.map fun v => 1 + Utf8.size v.compact).sum - 1) := by
  have opening : Utf8.size "[" = 1 := rfl
  have closing : Utf8.size "]" = 1 := rfl
  rw [compact, Utf8.size_append, Utf8.size_append, Utf8.size_intercalate, compactItems_eq, List.map_map,
    opening, closing, Function.comp_def]
  omega

theorem size_object {keys : List String} {values : List Json} (paired : keys.length = values.length)
    (some : keys ≠ []) : Utf8.size (object (keys.zip values)).compact =
      1 + (keys.map fun key => 2 + Utf8.size (quote key)).sum +
        (values.map fun v => Utf8.size v.compact).sum := by
  have opening : Utf8.size "\x7b" = 1 := rfl
  have closing : Utf8.size "\x7d" = 1 := rfl
  have colon : Utf8.size ":" = 1 := rfl
  have each : ∀ field : String × Json, 1 + Utf8.size (quote field.1 ++ ":" ++ compact field.2) =
      2 + Utf8.size (quote field.1) + Utf8.size field.2.compact := by
    intro field
    rw [Utf8.size_append, Utf8.size_append, colon]
    omega
  have positive : 1 ≤ (keys.map fun key => 2 + Utf8.size (quote key)).sum := by
    cases keys with
    | nil => exact absurd rfl some
    | cons first rest =>
      rw [List.map_cons, List.sum_cons]
      omega
  have apart : ((keys.zip values).map fun field => 2 + Utf8.size (quote field.1) +
      Utf8.size field.2.compact).sum = (keys.map fun key => 2 + Utf8.size (quote key)).sum +
        (values.map fun v => Utf8.size v.compact).sum := by
    have first := congrArg (List.map fun key => 2 + Utf8.size (quote key))
      (List.map_fst_zip (Nat.le_of_eq paired))
    have second := congrArg (List.map fun v => Utf8.size v.compact)
      (List.map_snd_zip (Nat.le_of_eq paired.symm))
    rw [List.map_map] at first second
    rw [List.sum_map_add]
    exact congrArg₂ (·.sum + ·.sum) first second
  rw [compact, Utf8.size_append, Utf8.size_append, Utf8.size_intercalate, compactFields_eq, List.map_map,
    opening, closing, Function.comp_def]
  simp only [each, apart]
  omega

theorem compact_text (s : String) : (text s).compact = quote s := rfl

end Json

namespace Summary

def texts (s : Summary) : List String := [s.name, s.uuid.text]

def numbers (s : Summary) : List Nat :=
  [s.format.code.toNat, s.change.toNat, s.electable, s.monitor, s.secondary, s.removed, s.tokens]

def keys : List String :=
  ["name", "uuid", "format_version", "change_version", "electable", "monitor", "secondary", "removed",
    "token_count"]

theorem size_compact (s : Summary) : Utf8.size s.toJson.compact =
    116 + (s.texts.map fun t => Utf8.size (Json.quote t)).sum +
      (s.numbers.map fun n => Utf8.size (toString n)).sum := by
  have fields : s.toJson = .object (keys.zip (s.texts.map .text ++ s.numbers.map .nat)) := rfl
  have named : (keys.map fun key => 2 + Utf8.size (Json.quote key)).sum = 115 := by decide
  rw [fields, Json.size_object rfl (by decide), named, List.map_append, List.sum_append,
    List.map_map, List.map_map, ← Nat.add_assoc]
  rfl

end Summary

namespace StatusReport

def keys : List String := ["started_at", "generated_at", "versions", "group", "active"]

/-- Bytes of a report, which names the active members one by one. -/
def weight (r : StatusReport) : Nat :=
  828 + ([r.startedAt, r.generatedAt, r.group.name, r.group.uuid.text].map fun t => Utf8.size (Json.quote t)).sum +
    (r.group.numbers.map fun n => Utf8.size (toString n)).sum +
    ((r.active.map fun name => 1 + Utf8.size (Json.quote name)).sum - 1)

theorem size_compact (r : StatusReport) : Utf8.size r.toJson.compact = r.weight := by
  have fields : r.toJson = .object (keys.zip [.text r.startedAt, .text r.generatedAt, VersionReport.json,
    r.group.toJson, .array (r.active.map .text)]) := rfl
  have named : (keys.map fun key => 2 + Utf8.size (Json.quote key)).sum = 61 := by decide
  have versions : Utf8.size VersionReport.json.compact = 648 := by decide +kernel
  rw [fields, Json.size_object rfl (by decide), named]
  simp only [List.map_cons, List.map_nil, List.sum_cons, List.sum_nil, Json.compact_text, versions,
    Summary.size_compact, Json.size_array, List.map_map, Function.comp_def, weight, Summary.texts]
  omega

end StatusReport

end Roster

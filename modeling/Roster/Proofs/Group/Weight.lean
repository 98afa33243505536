import Roster.Proofs.Group.Stream
import Roster.Proofs.Text.Utf8

/-!
# How long a stream is

A record takes some bytes for its numbers and as many as its texts have, and every byte is two digits
of the stream. So a stream's length is a sum over the group's records, and nothing bounds it.
-/

namespace Roster

namespace Field

theorem length_text (s : String) : (text s).length = 2 + Utf8.size s := by
  rw [text, List.length_append, BigEndian.length_encode, Utf8.length_encode]

/-- Bytes of a text that need not be there. -/
def optionalWeight : Option String → Nat
  | some s => 3 + Utf8.size s
  | none => 1

theorem length_optionalText (o : Option String) : (optionalText o).length = optionalWeight o := by
  cases o with
  | none => rfl
  | some s =>
    rw [optionalText, List.length_append, length_text, optionalWeight, bool, List.length_singleton]
    omega

end Field

namespace Node

/-- Bytes of a node's record. -/
def weight (format : FormatVersion) (n : Node) : Nat :=
  16 + Utf8.size n.name + Utf8.size n.host +
    if format.carriesSoftware then Field.optionalWeight n.software else 0

theorem length_bytes (n : Node) (format : FormatVersion) : (n.bytes format).length = n.weight format := by
  have software : (if format.carriesSoftware then Field.optionalText n.software else []).length =
      if format.carriesSoftware then Field.optionalWeight n.software else 0 := by
    split
    · exact Field.length_optionalText n.software
    · rfl
  simp only [bytes, List.length_append, software, Field.length_text, Field.u32, Field.u16, Field.bool,
    BigEndian.length_encode, List.length_singleton, weight]
  omega

end Node

theorem Header.length_bytes (h : Header) : h.bytes.length = 32 + Utf8.size h.name := by
  simp only [bytes, List.length_append, Field.length_text, Field.u32, Field.u16, BigEndian.length_encode,
    h.uuid.length_bytes]
  omega

namespace Group

/-- Digits and bars of a group's stream at its own format. -/
def weight (g : Group) : Nat :=
  2 * (32 + Utf8.size g.name) + (g.nodes.map fun n => 1 + 2 * n.weight g.format).sum

theorem size_stream {g : Group} {stream : String} (written : g.stream = .ok stream) :
    Utf8.size stream = g.weight := by
  obtain ⟨tokens, same, rfl⟩ := map_eq_ok_iff.mp written
  obtain ⟨-, rfl⟩ := tokens_eq_ok_iff.mp same
  rw [Utf8.size_of_ascii fun c mem => Nat.lt_trans (TokenStream.isVisible_of_mem_encode mem).2 (by decide),
    TokenStream.length_encode, Header.length_bytes, List.map_map, weight]
  exact congrArg (_ + List.sum ·) (List.map_congr_left fun n _ =>
    congrArg (1 + 2 * ·) (n.length_bytes g.format))

end Group

end Roster

import Roster.Proofs.Token.Field

/-!
# Where a record ends

A record says itself where it ends. So a reader that is given the front part of a record misses a field
of it, and one that is given more than the record finds bytes behind it. Both follow from what a result
on some bytes says of the result on more bytes, and that passes through a bind.
-/

namespace Roster.Reader

variable {α β : Type}

/-- What the result on some bytes says of the result when more bytes follow. A reader that succeeds on
the first does the same with more behind, or minds that they are there. One that fails misses a field,
or fails whatever follows. -/
inductive Foretells (index : Nat) (more : List UInt8) :
    Except StreamError α × Cursor → Except StreamError α × Cursor → Prop
  | same (a : α) (offset : Nat) (rest : List UInt8) :
      Foretells index more (.ok a, ⟨index, offset, rest⟩) (.ok a, ⟨index, offset, rest ++ more⟩)
  | trailing (a : α) (c c' : Cursor) :
      Foretells index more (.ok a, c) (.error (.malformedToken index (.trailing more.length)), c')
  | truncated (field : String) (offset : Nat) (c : Cursor) (longer : Except StreamError α × Cursor) :
      Foretells index more (.error (.malformedToken index (.truncated field offset)), c) longer
  | failed (e e' : StreamError) (c c' : Cursor) :
      Foretells index more (.error e, c) (.error e', c')

/-- Whatever bytes the reader is given, its result foretells the one on more bytes. -/
def Steady (r : Reader α) : Prop :=
  ∀ index offset bs more, Foretells index more (r.continueFrom ⟨index, offset, bs⟩)
    (r.continueFrom ⟨index, offset, bs ++ more⟩)

theorem steady_pure (a : α) : Steady (pure a) := by
  intro index offset bs more
  exact .same a offset bs

theorem Steady.bind {r : Reader α} {f : α → Reader β} (hr : r.Steady) (hf : ∀ a, (f a).Steady) :
    (r >>= f).Steady := by
  intro index offset bs more
  rw [continueFrom_bind, continueFrom_bind]
  have first := hr index offset bs more
  generalize r.continueFrom ⟨index, offset, bs⟩ = short at first ⊢
  generalize r.continueFrom ⟨index, offset, bs ++ more⟩ = long at first ⊢
  cases first with
  | same a offset rest => exact hf a index offset rest more
  | trailing a c c' =>
    -- the longer run has ended already, so nothing is asked of the rest of the shorter one
    show Foretells index more ((f a).continueFrom c) _
    rcases (f a).continueFrom c with ⟨e | b, after⟩
    · exact .failed e _ after c'
    · exact .trailing b after c'
  | truncated field offset c longer => exact .truncated field offset c _
  | failed e e' c c' => exact .failed e e' c c'

theorem steady_fail (fault : TokenFault) : Steady (fail fault : Reader α) := by
  intro index offset bs more
  exact .failed _ _ _ _

theorem steady_ofExcept (result : Except StreamError α) : Steady (MonadExcept.ofExcept result) := by
  intro index offset bs more
  cases result with
  | ok a => exact .same a offset bs
  | error e => exact .failed e e _ _

theorem steady_bytes (n : Nat) (field : String) : Steady (bytes n field) := by
  intro index offset bs more
  rw [continueFrom_bytes, continueFrom_bytes]
  by_cases enough : n ≤ bs.length
  · have still : n ≤ (bs ++ more).length := by
      rw [List.length_append]
      omega
    have taken : (bs ++ more).take n = bs.take n := List.take_append_of_le_length enough
    have left : (bs ++ more).drop n = bs.drop n ++ more := List.drop_append_of_le_length enough
    rw [dif_pos enough, dif_pos still]
    simp only [taken, left]
    exact .same _ _ _
  · rw [dif_neg enough]
    exact .truncated field offset _ _

theorem steady_u8 (field : String) : Steady (u8 field) :=
  (steady_bytes 1 field).bind fun _ => steady_pure _

theorem steady_u16 (field : String) : Steady (u16 field) :=
  (steady_bytes 2 field).bind fun _ => steady_pure _

theorem steady_u32 (field : String) : Steady (u32 field) :=
  (steady_bytes 4 field).bind fun _ => steady_pure _

theorem steady_bool (field : String) : Steady (bool field) := by
  refine (steady_u8 field).bind fun n => ?_
  split
  · exact steady_pure false
  · split
    · exact steady_pure true
    · exact steady_fail _

theorem steady_text (field : String) : Steady (text field) := by
  refine (steady_u16 field).bind fun size => (steady_bytes size.toNat field).bind fun raw => ?_
  split
  · exact steady_pure _
  · exact steady_fail _

theorem steady_optionalText (field : String) : Steady (optionalText field) := by
  refine (steady_bool field).bind fun given => ?_
  split
  · exact (steady_text field).bind fun s => steady_pure _
  · exact steady_pure none

theorem steady_finish : Steady finish := by
  intro index offset bs more
  cases bs with
  | nil =>
    cases more with
    | nil => exact .same () offset []
    | cons b more => exact .trailing () _ _
  | cons b bs => exact .failed _ _ _ _

/-- The bytes are a whole record to the reader, which reads to the end of whatever it is given. -/
structure Spans (r : Reader α) (bs : List UInt8) : Prop where
  steady : r.Steady
  drains : ∀ {c a c'}, r.continueFrom c = (.ok a, c') → c'.rest = []
  succeeds : ∀ index, ∃ a c', r.continueFrom (Cursor.start index bs) = (.ok a, c')

theorem Reads.spans {r : Reader α} {E : α → List UInt8 → Prop} {a : α} {bs : List UInt8}
    (reads : Reads Nothing r E) (steady : r.Steady) (spelled : E a bs) : r.Spans bs := by
  refine ⟨steady, ?_, fun index => ?_⟩
  · intro c a c' read
    obtain ⟨_, _, -, none, -, rfl⟩ := (reads c a c').mp read
    exact none
  · exact ⟨a, _, (reads _ _ _).mpr ⟨bs, [], spelled, rfl, (List.append_nil bs).symm, rfl⟩⟩

namespace Spans

variable {r : Reader α} {bs extra missing : List UInt8}

/-- A record without its end misses a field. -/
theorem token_cut (whole : r.Spans (bs ++ missing)) (some : missing ≠ []) (index : Nat) :
    ∃ field offset, r.token index bs = .error (.malformedToken index (.truncated field offset)) := by
  have foretold := whole.steady index 0 bs missing
  obtain ⟨a, c', read⟩ := whole.succeeds index
  rw [Cursor.start] at read
  have drained := whole.drains read
  rw [read] at foretold
  rw [token, Cursor.start]
  generalize r.continueFrom ⟨index, 0, bs⟩ = short at foretold ⊢
  cases foretold with
  | same => exact absurd (List.append_eq_nil_iff.mp drained).2 some
  | truncated field offset => exact ⟨field, offset, rfl⟩

/-- A record with something behind it leaves that over. -/
theorem token_excess (whole : r.Spans bs) (some : extra ≠ []) (index : Nat) :
    r.token index (bs ++ extra) = .error (.malformedToken index (.trailing extra.length)) := by
  have foretold := whole.steady index 0 bs extra
  obtain ⟨a, c', read⟩ := whole.succeeds index
  rw [Cursor.start] at read
  rw [read] at foretold
  rw [token, Cursor.start]
  generalize longer : r.continueFrom ⟨index, 0, bs ++ extra⟩ = long at foretold ⊢
  cases foretold with
  | same => exact absurd (List.append_eq_nil_iff.mp (whole.drains longer)).2 some
  | trailing => rfl

end Spans

end Roster.Reader

import Roster.Fault

/-!
# Results that succeed

When a computation that may fail succeeds, so has each of its parts. The lemmas here take such a
computation apart; they are used wherever a definition is written with `do`.
-/

namespace Roster

variable {ε δ α β : Type}

theorem bind_eq_ok_iff {e : Except ε α} {f : α → Except ε β} {b : β} :
    (e >>= f) = .ok b ↔ ∃ a, e = .ok a ∧ f a = .ok b := by
  constructor
  · intro h
    cases e with
    | error e => cases h
    | ok a => exact ⟨a, rfl, h⟩
  · rintro ⟨a, rfl, h⟩
    exact h

theorem bind_eq_error_iff {e : Except ε α} {f : α → Except ε β} {cause : ε} :
    (e >>= f) = .error cause ↔ e = .error cause ∨ ∃ a, e = .ok a ∧ f a = .error cause := by
  constructor
  · intro h
    cases e with
    | error e =>
      cases h
      exact Or.inl rfl
    | ok a => exact Or.inr ⟨a, rfl, h⟩
  · rintro (rfl | ⟨a, rfl, h⟩)
    · rfl
    · exact h

theorem map_eq_ok_iff {e : Except ε α} {f : α → β} {b : β} :
    e.map f = .ok b ↔ ∃ a, e = .ok a ∧ f a = b := by
  cases e <;> simp [Except.map]

theorem mapError_eq_ok_iff {e : Except ε α} {f : ε → δ} {a : α} :
    e.mapError f = .ok a ↔ e = .ok a := by
  constructor
  · intro h
    cases e with
    | error e => cases h
    | ok b =>
      cases h
      rfl
  · rintro rfl
    rfl

theorem mapError_eq_error_iff {e : Except ε α} {f : ε → δ} {cause : δ} :
    e.mapError f = .error cause ↔ ∃ c, e = .error c ∧ f c = cause := by
  constructor
  · intro h
    cases e with
    | error c =>
      cases h
      exact ⟨c, rfl, rfl⟩
    | ok b => cases h
  · rintro ⟨c, rfl, rfl⟩
    rfl

/-- A check that stands in front of the rest. -/
theorem guard_bind_eq_ok_iff {p : Prop} [Decidable p] {cause : ε} {rest : Unit → Except ε β}
    {b : β} : (if p then throw cause >>= rest else rest ()) = .ok b ↔ ¬ p ∧ rest () = .ok b := by
  by_cases h : p
  · rw [if_pos h]
    constructor
    · intro hb
      cases hb
    · exact fun hb => absurd h hb.1
  · simp [h]

theorem guard_bind_eq_error_iff {p : Prop} [Decidable p] {cause fault : ε} {rest : Unit → Except ε β} :
    (if p then throw cause >>= rest else rest ()) = .error fault ↔
      p ∧ fault = cause ∨ ¬ p ∧ rest () = .error fault := by
  by_cases h : p
  · rw [if_pos h]
    constructor
    · intro hb
      cases hb
      exact Or.inl ⟨h, rfl⟩
    · rintro (⟨-, rfl⟩ | ⟨no, -⟩)
      · rfl
      · exact absurd h no
  · simp [h]

theorem mapM_eq_ok_iff {f : α → Except ε β} {p : α → Prop} {g : α → β}
    (each : ∀ a b, f a = .ok b ↔ p a ∧ b = g a) (as : List α) {bs : List β} :
    as.mapM f = .ok bs ↔ (∀ a ∈ as, p a) ∧ bs = as.map g := by
  induction as generalizing bs with
  | nil =>
    rw [List.mapM_nil]
    constructor
    · intro h
      cases h
      simp
    · rintro ⟨-, rfl⟩
      rfl
  | cons a as ih =>
    rw [List.mapM_cons, bind_eq_ok_iff]
    constructor
    · rintro ⟨b, hb, htail⟩
      obtain ⟨bs', hbs', heq⟩ := bind_eq_ok_iff.mp htail
      cases heq
      obtain ⟨ha, rfl⟩ := (each a b).mp hb
      obtain ⟨has, rfl⟩ := ih.mp hbs'
      exact ⟨List.forall_mem_cons.mpr ⟨ha, has⟩, rfl⟩
    · rintro ⟨all, rfl⟩
      obtain ⟨ha, has⟩ := List.forall_mem_cons.mp all
      refine ⟨g a, (each a _).mpr ⟨ha, rfl⟩, bind_eq_ok_iff.mpr ⟨as.map g, ih.mpr ⟨has, rfl⟩, rfl⟩⟩

theorem mapM_eq_error {f : α → Except ε β} {as : List α} {e : ε}
    (h : as.mapM f = .error e) : ∃ a ∈ as, f a = .error e := by
  induction as with
  | nil => cases h
  | cons a as ih =>
    rw [List.mapM_cons] at h
    rcases bind_eq_error_iff.mp h with here | ⟨b, -, h⟩
    · exact ⟨a, List.mem_cons_self, here⟩
    · rcases bind_eq_error_iff.mp h with later | ⟨bs, -, h⟩
      · obtain ⟨a', mem, there⟩ := ih later
        exact ⟨a', List.mem_cons_of_mem a mem, there⟩
      · cases h

/-- A fold that succeeds relates its ends as its steps, taken one after the other, relate theirs. -/
theorem related_of_foldlM {f : β → α → Except ε β} {R : Nat → β → β → Prop} (none : ∀ b, R 0 b b)
    (more : ∀ {n b c d} a, f b a = .ok c → R n c d → R (n + 1) b d) {as : List α} {b d : β}
    (h : as.foldlM f b = .ok d) : R as.length b d := by
  induction as generalizing b with
  | nil =>
    cases h
    exact none _
  | cons a as ih =>
    rw [List.foldlM_cons] at h
    obtain ⟨c, first, later⟩ := bind_eq_ok_iff.mp h
    exact more a first (ih later)

theorem refusing_eq_ok_iff {e : Except ε α} {a : α} : refusing e = .ok a ↔ e = .ok a := by
  cases e <;> simp [refusing]

theorem refusing_eq_error_iff {e : Except ε α} {fault : Fault ε} :
    refusing e = .error fault ↔ ∃ cause, e = .error cause ∧ fault = .refused cause := by
  cases e <;> simp [refusing, eq_comm]

theorem Counter.next_eq_error_iff {n : UInt32} {fault : Fault ε} :
    (Counter.next n : Except (Fault ε) UInt32) = .error fault ↔ n = Counter.last ∧ fault = .exhausted := by
  rw [Counter.next, Counter.next?]
  by_cases h : n = Counter.last
  · simp [h, eq_comm]
  · simp [h]

theorem Counter.next_eq_ok_iff {n m : UInt32} :
    (Counter.next n : Except (Fault ε) UInt32) = .ok m ↔ n ≠ Counter.last ∧ m = n + 1 := by
  rw [Counter.next, Counter.next?]
  by_cases h : n = Counter.last
  · simp [h]
  · simp [h, eq_comm]

end Roster

import Mathlib.Data.List.TakeWhile
import Roster.Proofs.Token.Stream

/-!
# What a token stream must look like

Between bars stand pairs of lowercase hex digits, at least one pair. A text that looks otherwise is
refused at the first token that does, and the error says what is wrong there: a character that is no hex
digit, nothing at all, or a digit without its pair.
-/

namespace Roster

namespace Hex

/-- The characters that spell bytes. -/
def alphabet : List Char := "0123456789abcdef".toList

theorem isDigit_iff_mem {c : Char} : isDigit c = true ↔ c ∈ alphabet := by
  constructor
  · intro digit
    obtain ⟨n, known⟩ := Option.isSome_iff_exists.mp digit
    have all : ∀ n : Fin 16, Hex.digit n.val ∈ alphabet := by decide
    rw [← digit_value? known]
    exact all ⟨n, value?_lt known⟩
  · have all : alphabet.all isDigit = true := by decide
    exact List.all_eq_true.mp all c

/-- Digits in pairs spell bytes. -/
theorem exists_decodeOnto (done : List UInt8) {digits : List Char} (hex : ∀ c ∈ digits, isDigit c = true)
    (paired : digits.length % 2 = 0) : ∃ bytes, decodeOnto done digits = some bytes := by
  fun_induction decodeOnto done digits with
  | case1 done => exact ⟨_, rfl⟩
  | case2 => simp at paired
  | case3 done high low rest x y hx hy ih =>
    obtain ⟨-, hex⟩ := List.forall_mem_cons.mp hex
    obtain ⟨-, hex⟩ := List.forall_mem_cons.mp hex
    simp only [List.length_cons] at paired
    exact ih hex (by omega)
  | case4 done high low rest none =>
    obtain ⟨first, hex⟩ := List.forall_mem_cons.mp hex
    obtain ⟨second, -⟩ := List.forall_mem_cons.mp hex
    obtain ⟨x, hx⟩ := Option.isSome_iff_exists.mp first
    obtain ⟨y, hy⟩ := Option.isSome_iff_exists.mp second
    exact absurd hy (none x y hx)

end Hex

namespace TokenStream

/-- The characters between two bars spell a token. -/
structure Spelled (piece : List Char) : Prop where
  nonempty : piece ≠ []
  paired : piece.length % 2 = 0
  hex : ∀ c ∈ piece, c ∈ Hex.alphabet

/-- What is wrong with a piece that starts at an offset. A character that is no hex digit is found before
all else. -/
inductive Blames (offset : Nat) : List Char → TokenFault → Prop
  | foreign {front behind : List Char} {c : Char} (hex : ∀ d ∈ front, d ∈ Hex.alphabet) (other : c ∉ Hex.alphabet) :
      Blames offset (front ++ c :: behind) (.notHex (leadByte c) (offset + front.length))
  | empty : Blames offset [] .empty
  | unpaired {piece : List Char} (hex : ∀ d ∈ piece, d ∈ Hex.alphabet) (odd : piece.length % 2 = 1) :
      Blames offset piece (.oddLength piece.length)

variable {offset : Nat} {piece : List Char} {fault : TokenFault}

theorem not_spelled_iff : ¬ Spelled piece ↔
    piece = [] ∨ piece.length % 2 = 1 ∨ ∃ c ∈ piece, c ∉ Hex.alphabet := by
  constructor
  · intro unspelled
    by_cases nonempty : piece = []
    · exact Or.inl nonempty
    by_cases paired : piece.length % 2 = 0
    · refine Or.inr (Or.inr ?_)
      by_contra none
      exact unspelled ⟨nonempty, paired, fun c mem => by_contra fun other => none ⟨c, mem, other⟩⟩
    · exact Or.inr (Or.inl (Nat.mod_two_ne_zero.mp paired))
  · rintro (none | odd | ⟨c, mem, other⟩) spelled
    · exact spelled.nonempty none
    · have paired := spelled.paired
      omega
    · exact other (spelled.hex c mem)

theorem Blames.not_spelled (h : Blames offset piece fault) : ¬ Spelled piece := by
  intro spelled
  cases h with
  | foreign hex other => exact other (spelled.hex _ (List.mem_append_right _ List.mem_cons_self))
  | empty => exact spelled.nonempty rfl
  | unpaired hex odd =>
    have paired := spelled.paired
    omega

theorem blames_faultOf (offset : Nat) (unspelled : ¬ Spelled piece) :
    Blames offset piece (faultOf offset piece) := by
  have whole := List.takeWhile_append_dropWhile (p := Hex.isDigit) (l := piece)
  have hex : ∀ d ∈ piece.takeWhile Hex.isDigit, d ∈ Hex.alphabet :=
    fun d mem => Hex.isDigit_iff_mem.mp (List.all_eq_true.mp List.all_takeWhile d mem)
  have stop := List.head?_dropWhile_not Hex.isDigit piece
  rw [faultOf]
  cases behind : piece.dropWhile Hex.isDigit with
  | cons c later =>
    rw [behind] at whole stop
    have other : c ∉ Hex.alphabet := fun mem => absurd (Hex.isDigit_iff_mem.mpr mem) (by simpa using stop)
    have blamed : Blames offset (_ ++ c :: later) _ := .foreign hex other
    rwa [whole] at blamed
  | nil =>
    rw [behind, List.append_nil] at whole
    rw [whole] at hex
    cases piece with
    | nil => exact .empty
    | cons c cs =>
      refine .unpaired hex (Nat.mod_two_ne_zero.mp fun paired => unspelled ⟨List.cons_ne_nil c cs, paired, hex⟩)

/-- One thing is wrong with a piece that spells no token. -/
theorem Blames.eq_faultOf (h : Blames offset piece fault) : fault = faultOf offset piece := by
  have passes : ∀ {front : List Char}, (∀ d ∈ front, d ∈ Hex.alphabet) → ∀ d ∈ front, Hex.isDigit d = true :=
    fun hex d mem => Hex.isDigit_iff_mem.mpr (hex d mem)
  cases h with
  | @foreign front behind c hex other =>
    have stops : ¬ Hex.isDigit c = true := fun digit => other (Hex.isDigit_iff_mem.mp digit)
    have left : (front ++ c :: behind).dropWhile Hex.isDigit = c :: behind := by
      rw [List.dropWhile_append_of_pos (passes hex), List.dropWhile_cons_of_neg stops]
    have taken : (front ++ c :: behind).takeWhile Hex.isDigit = front := by
      rw [List.takeWhile_append_of_pos (passes hex), List.takeWhile_cons_of_neg stops, List.append_nil]
    rw [faultOf, left, taken]
  | empty => rfl
  | unpaired hex odd =>
    have none : piece.dropWhile Hex.isDigit = [] := List.dropWhile_eq_nil_iff.mpr (passes hex)
    have some : piece.isEmpty = false := by
      cases piece with
      | nil => cases odd
      | cons c cs => rfl
    rw [faultOf, none, some]
    rfl

theorem exists_decodeToken_iff : (∃ token, decodeToken offset piece = .ok token) ↔ Spelled piece := by
  constructor
  · rintro ⟨token, read⟩
    obtain ⟨some, rfl⟩ := decodeToken_eq_ok_iff.mp read
    refine ⟨Hex.encode_eq_nil_iff.not.mpr some, ?_, fun c mem => ?_⟩
    · rw [Hex.length_encode]
      omega
    · exact Hex.isDigit_iff_mem.mp (Hex.isDigit_of_mem_encode mem)
  · intro spelled
    obtain ⟨bytes, read⟩ := Hex.exists_decodeOnto [] (fun c mem => Hex.isDigit_iff_mem.mpr (spelled.hex c mem))
      spelled.paired
    have same : piece = Hex.encode bytes := Hex.decode?_eq_some_iff.mp read
    refine ⟨bytes, decodeToken_eq_ok_iff.mpr ⟨?_, same⟩⟩
    rintro rfl
    exact spelled.nonempty same

theorem decodeToken_eq_error_iff :
    decodeToken offset piece = .error fault ↔ Blames offset piece fault := by
  constructor
  · intro failed
    have unspelled : ¬ Spelled piece := by
      intro spelled
      obtain ⟨token, read⟩ := exists_decodeToken_iff.mpr spelled
      cases failed.symm.trans read
    rw [decodeToken] at failed
    split at failed
    · cases failed
    · cases failed
      exact blames_faultOf offset unspelled
  · intro blamed
    cases read : decodeToken offset piece with
    | ok token => exact absurd (exists_decodeToken_iff.mp ⟨token, read⟩) blamed.not_spelled
    | error other =>
      rw [decodeToken] at read
      split at read
      · cases read
      · cases read
        rw [blamed.eq_faultOf]

/-- Characters of the pieces in front, and of the bars behind them. -/
def passed (front : List (List Char)) : Nat := (front.map fun piece => piece.length + 1).sum

theorem passed_cons (piece : List Char) (front : List (List Char)) (offset : Nat) :
    offset + passed (piece :: front) = offset + piece.length + 1 + passed front := by
  rw [passed, List.map_cons, List.sum_cons, ← passed]
  omega

/-- Reading stops at the first piece that spells no token. -/
theorem decodeOnto_eq_error_iff {done : List (List UInt8)} {ps : List (List Char)} {e : StreamError} :
    decodeOnto done offset ps = .error e ↔ ∃ front piece behind fault, ps = front ++ piece :: behind ∧
      (∀ p ∈ front, Spelled p) ∧ Blames (offset + passed front) piece fault ∧
      e = .malformedToken (done.length + front.length) fault := by
  -- the tokens read so far and the offset stay general: a piece that is read moves both on
  induction ps generalizing done offset with
  | nil => simp [decodeOnto]
  | cons p ps ih =>
    rw [decodeOnto]
    cases read : decodeToken offset p with
    | ok token =>
      have spelled := exists_decodeToken_iff.mp ⟨token, read⟩
      rw [ih]
      constructor
      · rintro ⟨front, piece, behind, fault, rfl, before, blamed, rfl⟩
        refine ⟨p :: front, piece, behind, fault, rfl, List.forall_mem_cons.mpr ⟨spelled, before⟩, ?_, ?_⟩
        · rwa [passed_cons]
        · simp only [List.length_cons]
          rw [Nat.add_assoc, Nat.add_comm 1]
      · rintro ⟨front, piece, behind, fault, split, before, blamed, rfl⟩
        cases front with
        | nil =>
          obtain ⟨rfl, rfl⟩ := List.cons.inj split
          exact absurd spelled blamed.not_spelled
        | cons first front =>
          obtain ⟨rfl, rfl⟩ := List.cons.inj split
          refine ⟨front, piece, behind, fault, rfl, (List.forall_mem_cons.mp before).2, ?_, ?_⟩
          · rwa [passed_cons] at blamed
          · simp only [List.length_cons]
            rw [Nat.add_assoc, Nat.add_comm 1]
    | error fault =>
      have blamed := decodeToken_eq_error_iff.mp read
      constructor
      · intro failed
        cases failed
        exact ⟨[], p, ps, fault, rfl, List.forall_mem_nil _, blamed, rfl⟩
      · rintro ⟨front, piece, behind, other, split, before, blamed', rfl⟩
        cases front with
        | nil =>
          obtain ⟨rfl, rfl⟩ := List.cons.inj split
          rw [blamed.eq_faultOf, Blames.eq_faultOf blamed']
          rfl
        | cons first front =>
          obtain ⟨rfl, rfl⟩ := List.cons.inj split
          exact absurd (List.forall_mem_cons.mp before).1 blamed.not_spelled

theorem decode_eq_error_iff {stream : String} (some : stream ≠ "") {e : StreamError} :
    decode stream = .error e ↔ ∃ front piece behind fault, stream.toList.splitOn bar = front ++ piece :: behind ∧
      (∀ p ∈ front, Spelled p) ∧ Blames (passed front) piece fault ∧ e = .malformedToken front.length fault := by
  rw [decode, if_neg (by simpa using some), pieces_isBar, decodeOnto_eq_error_iff]
  simp only [Nat.zero_add, List.length_nil]

/-- A text is read as tokens exactly if it is what writing makes of them, and these are at least one and
none of them is empty. The empty text is no stream. Any other text that is refused is refused at the first
piece between bars that does not spell a token, since it is empty, is not made of pairs or has a character
that is no lowercase hex digit; the error has that piece's index and says which of these it is. -/
theorem stream_grammar (stream : String) :
    (∀ tokens, decode stream = .ok tokens ↔
      tokens ≠ [] ∧ (∀ token ∈ tokens, token ≠ []) ∧ stream = encode tokens) ∧
    ∀ e, decode stream = .error e ↔ stream = "" ∧ e = .corrupt .emptyStream ∨ stream ≠ "" ∧
      ∃ front piece behind fault, stream.toList.splitOn '|' = front ++ piece :: behind ∧
        (∀ p ∈ front, Spelled p) ∧
        (piece = [] ∨ piece.length % 2 = 1 ∨ ∃ c ∈ piece, c ∉ "0123456789abcdef".toList) ∧
        Blames (passed front) piece fault ∧ e = .malformedToken front.length fault := by
  refine ⟨fun tokens => decode_eq_ok_iff, fun e => ?_⟩
  by_cases empty : stream = ""
  · subst empty
    constructor
    · intro failed
      cases failed
      exact Or.inl ⟨rfl, rfl⟩
    · rintro (⟨-, rfl⟩ | ⟨some, -⟩)
      · rfl
      · exact absurd rfl some
  · rw [decode_eq_error_iff empty]
    constructor
    · rintro ⟨front, piece, behind, fault, split, spelled, blamed, rfl⟩
      exact Or.inr ⟨empty, front, piece, behind, fault, split, spelled,
        not_spelled_iff.mp blamed.not_spelled, blamed, rfl⟩
    · rintro (⟨none, -⟩ | ⟨-, front, piece, behind, fault, split, spelled, -, blamed, rfl⟩)
      · exact absurd none empty
      · exact ⟨front, piece, behind, fault, split, spelled, blamed, rfl⟩

/-- A stream of two tokens is read, and one whose second token has a foreign character is refused there. -/
theorem foreign_character_is_found : decode "00ff|0a" = .ok [[0, 255], [10]] ∧
    decode "" = .error (.corrupt .emptyStream) ∧
    decode "00|0é|0" = .error (.malformedToken 1 (.notHex 195 4)) := by
  refine ⟨?_, ?_, ?_⟩
  · exact ((stream_grammar _).1 _).mpr ⟨by simp, by simp, by decide⟩
  · exact ((stream_grammar _).2 _).mpr (Or.inl ⟨rfl, rfl⟩)
  · have zero : '0' ∈ Hex.alphabet := by decide
    have blamed : Blames 3 (['0'] ++ ['é']) (.notHex 195 4) :=
      .foreign (List.forall_mem_singleton.mpr zero) (by decide)
    refine ((stream_grammar _).2 _).mpr (Or.inr ⟨by decide, [['0', '0']], ['0', 'é'], [['0']], _, by decide,
      ?_, ?_, blamed, rfl⟩)
    · refine List.forall_mem_singleton.mpr ⟨by decide, rfl, ?_⟩
      exact List.forall_mem_cons.mpr ⟨zero, List.forall_mem_singleton.mpr zero⟩
    · exact Or.inr (Or.inr ⟨'é', by decide, by decide⟩)

end TokenStream

end Roster

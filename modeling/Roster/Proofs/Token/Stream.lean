import Roster.Proofs.Text.Words
import Roster.Token.Stream

/-!
# What a token stream spells

Reading accepts exactly what writing makes of some tokens, at least one and none of them empty,
so a stream has one spelling.
-/

namespace Roster

theorem pieces_eq_splitOn (separator : Char) (xs : List Char) :
    pieces (· == separator) xs = xs.splitOn separator := by
  induction xs with
  | nil => rfl
  | cons x xs ih =>
    rw [pieces_cons, List.splitOn_cons_eq_if_modifyHead, ih]
    split
    · rfl
    · cases h : xs.splitOn separator with
      | nil => exact absurd h (List.splitOn_ne_nil separator xs)
      | cons p ps => rfl

theorem Hex.isDigit_of_mem_encode {bytes : List UInt8} {c : Char} (h : c ∈ Hex.encode bytes) :
    Hex.isDigit c = true := by
  obtain ⟨b, -, hb⟩ := List.mem_flatMap.mp h
  have digit : ∀ n, n < 16 → Hex.isDigit (Hex.digit n) = true := by
    intro n hn
    rw [Hex.isDigit, Hex.value?_digit hn]
    rfl
  have hlt := b.toNat_lt
  rcases List.mem_cons.mp hb with rfl | hb
  · exact digit _ (by omega)
  · obtain rfl := List.mem_singleton.mp hb
    exact digit _ (by omega)

theorem Hex.bar_not_mem_encode (bytes : List UInt8) : TokenStream.bar ∉ Hex.encode bytes := by
  intro h
  have digit := Hex.isDigit_of_mem_encode h
  exact absurd digit (by decide)

theorem Hex.isVisible_of_isDigit {c : Char} (h : Hex.isDigit c = true) : IsVisible c := by
  rw [Hex.isDigit, Hex.value?] at h
  split at h
  · rename_i digit
    have above : 48 ≤ c.toNat := digit.1
    have below : c.toNat ≤ 57 := digit.2
    exact ⟨by omega, by omega⟩
  · split at h
    · rename_i letter
      have above : 97 ≤ c.toNat := letter.1
      have below : c.toNat ≤ 102 := letter.2
      exact ⟨by omega, by omega⟩
    · cases h

theorem Hex.length_encode (bytes : List UInt8) : (Hex.encode bytes).length = 2 * bytes.length := by
  induction bytes with
  | nil => rfl
  | cons b bytes ih =>
    have step : Hex.encode (b :: bytes) = Hex.pair b ++ Hex.encode bytes := rfl
    rw [step, List.length_append, ih, List.length_cons, Hex.pair]
    simp only [List.length_cons, List.length_nil]
    omega

@[simp] theorem Hex.encode_eq_nil_iff {bytes : List UInt8} : Hex.encode bytes = [] ↔ bytes = [] := by
  cases bytes with
  | nil => simp [Hex.encode]
  | cons b bytes => simp [Hex.encode, Hex.pair]

namespace TokenStream

theorem decodeToken_eq_ok_iff {offset : Nat} {digits : List Char} {token : List UInt8} :
    decodeToken offset digits = .ok token ↔ token ≠ [] ∧ digits = Hex.encode token := by
  rw [decodeToken]
  constructor
  · intro h
    split at h
    · rename_i b bytes hb
      cases h
      exact ⟨by simp, Hex.decode?_eq_some_iff.mp hb⟩
    · cases h
  · rintro ⟨hne, rfl⟩
    cases token with
    | nil => exact absurd rfl hne
    | cons b bytes => rw [Hex.decode?_encode]

theorem decodeOnto_eq_ok_iff {done : List (List UInt8)} {offset : Nat} {ps : List (List Char)}
    {tokens : List (List UInt8)} :
    decodeOnto done offset ps = .ok tokens ↔
      ∃ more, tokens = done.reverse ++ more ∧ (∀ t ∈ more, t ≠ []) ∧ ps = more.map Hex.encode := by
  induction ps generalizing done offset with
  | nil =>
    rw [decodeOnto]
    constructor
    · intro h
      cases h
      exact ⟨[], by simp, by simp, rfl⟩
    · rintro ⟨more, rfl, -, hmore⟩
      rw [List.map_eq_nil_iff.mp hmore.symm, List.append_nil]
  | cons p ps ih =>
    rw [decodeOnto]
    constructor
    · intro h
      split at h
      · rename_i token htoken
        obtain ⟨hne, rfl⟩ := decodeToken_eq_ok_iff.mp htoken
        obtain ⟨more, rfl, hmore, rfl⟩ := ih.mp h
        exact ⟨token :: more, by simp, by simpa [hne] using hmore, rfl⟩
      · cases h
    · rintro ⟨more, rfl, hne, hps⟩
      cases more with
      | nil => cases hps
      | cons token more =>
        obtain ⟨rfl, rfl⟩ := List.cons.inj hps
        obtain ⟨htoken, hmore⟩ := List.forall_mem_cons.mp hne
        rw [decodeToken_eq_ok_iff.mpr ⟨htoken, rfl⟩]
        exact ih.mpr ⟨more, by simp, hmore, rfl⟩

theorem pieces_isBar (xs : List Char) : pieces isBar xs = xs.splitOn bar := pieces_eq_splitOn bar xs

theorem pieces_encode {tokens : List (List UInt8)} (hne : tokens ≠ []) :
    pieces isBar (encode tokens).toList = tokens.map Hex.encode := by
  rw [encode, String.toList_ofList, pieces_isBar]
  apply List.splitOn_intercalate bar _ (by simpa using hne)
  intro p hp
  obtain ⟨t, -, rfl⟩ := List.mem_map.mp hp
  exact Hex.bar_not_mem_encode t

theorem encode_ne_empty {tokens : List (List UInt8)} (hne : tokens ≠ [])
    (full : ∀ t ∈ tokens, t ≠ []) : encode tokens ≠ "" := by
  intro h
  have hp := pieces_encode hne
  rw [h] at hp
  cases tokens with
  | nil => exact hne rfl
  | cons t ts =>
    have ht : [] = Hex.encode t := (List.cons.inj hp).1
    exact full t List.mem_cons_self (Hex.encode_eq_nil_iff.mp ht.symm)

/-- Accepted streams and nonempty lists of nonempty tokens are the same thing. -/
theorem decode_eq_ok_iff {stream : String} {tokens : List (List UInt8)} :
    decode stream = .ok tokens ↔
      tokens ≠ [] ∧ (∀ t ∈ tokens, t ≠ []) ∧ stream = encode tokens := by
  rw [decode]
  constructor
  · intro h
    split at h
    · cases h
    · obtain ⟨more, htokens, full, hpieces⟩ := decodeOnto_eq_ok_iff.mp h
      rw [List.reverse_nil, List.nil_append] at htokens
      subst htokens
      refine ⟨?_, full, ?_⟩
      · rintro rfl
        exact pieces_ne_nil isBar stream.toList hpieces
      · rw [encode, ← hpieces, pieces_isBar, List.intercalate_splitOn, String.ofList_toList]
  · rintro ⟨hne, full, rfl⟩
    rw [if_neg (by simpa using encode_ne_empty hne full), decodeOnto_eq_ok_iff]
    exact ⟨tokens, by simp, full, pieces_encode hne⟩

theorem isVisible_of_mem_encode {tokens : List (List UInt8)} {c : Char} (h : c ∈ (encode tokens).toList) :
    IsVisible c := by
  rw [encode, String.toList_ofList] at h
  rcases mem_intercalate h with rfl | ⟨digits, spelled, mem⟩
  · decide
  · obtain ⟨token, -, rfl⟩ := List.mem_map.mp spelled
    exact Hex.isVisible_of_isDigit (Hex.isDigit_of_mem_encode mem)

/-- Each byte is two digits, and a bar stands in front of each token but the first. -/
theorem length_encode (first : List UInt8) (rest : List (List UInt8)) :
    (encode (first :: rest)).toList.length =
      2 * first.length + (rest.map fun token => 1 + 2 * token.length).sum := by
  rw [encode, String.toList_ofList, List.map_cons, intercalate_cons, List.length_append, Hex.length_encode,
    List.length_flatMap, List.map_map]
  refine congrArg (2 * first.length + List.sum ·) (List.map_congr_left fun token _ => ?_)
  simp only [Function.comp_apply, List.length_cons, Hex.length_encode]
  omega

/-- The text before the first bar. -/
def firstToken (stream : String) : List Char := stream.toList.takeWhile (fun x => !isBar x)

theorem firstToken_encode (first : List UInt8) (rest : List (List UInt8)) :
    firstToken (encode (first :: rest)) = Hex.encode first := by
  rw [firstToken, ← headD_pieces, pieces_encode (by simp)]
  rfl

end TokenStream

end Roster

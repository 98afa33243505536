import Roster.Proofs.Token.Field
import Roster.Subject.Text

/-!
# Text values as they are spelled

The bytes of a text in each of the four encodings, told without the reader. The reader gives a text exactly for
the bytes that spell it, so bytes that do not decode are those that spell no text at all.
-/

namespace Roster.TextKind

/-- The sixteen-bit units of a character: itself, or a high surrogate and a low one. -/
def units (c : Char) : List Nat :=
  if c.toNat < 0x10000 then [c.toNat]
  else [0xD800 + (c.toNat - 0x10000) / 0x400, 0xDC00 + (c.toNat - 0x10000) % 0x400]

/-- The bytes are those of the text. -/
def Spells (kind : TextKind) (s : String) (bytes : List UInt8) : Prop :=
  match kind with
  | utf8 => bytes = Utf8.encode s
  | latin1 => s.toList.map Char.toNat = bytes.map UInt8.toNat
  | utf16 => bytes = (s.toList.flatMap units).flatMap (BigEndian.encode 2)
  | utf32 => bytes = (s.toList.map Char.toNat).flatMap (BigEndian.encode 4)

instance (kind : TextKind) (s : String) (bytes : List UInt8) : Decidable (kind.Spells s bytes) :=
  match kind with
  | utf8 | latin1 | utf16 | utf32 => inferInstanceAs (Decidable (_ = _))

section Characters

variable {c : Char} {n : Nat}

/-- A character is no surrogate and does not lie beyond the last plane. -/
theorem toNat_valid (c : Char) : c.toNat < 0xD800 ∨ 0xDFFF < c.toNat ∧ c.toNat < 0x110000 := c.valid

theorem char?_eq_some_iff : char? n = some c ↔ c.toNat = n := by
  constructor
  · intro h
    rw [char?] at h
    split at h
    · rename_i valid
      have small : n < 2 ^ 32 := by
        rcases valid with low | ⟨-, high⟩ <;> omega
      cases h
      exact Nat.mod_eq_of_lt small
    · cases h
  · rintro rfl
    rw [char?, dif_pos (toNat_valid c)]
    refine congrArg some (Char.toNat_inj.mp ?_)
    exact Nat.mod_eq_of_lt c.val.toNat_lt

theorem units_lt {u : Nat} (mem : u ∈ units c) : u < 0x10000 := by
  have valid := toNat_valid c
  rw [units] at mem
  split at mem
  · rw [List.mem_singleton.mp mem]
    assumption
  · simp only [List.mem_cons, List.not_mem_nil, or_false] at mem
    omega

/-- A high and a low surrogate are the units of the character they stand for. -/
theorem units_of_surrogates {high low : Nat} (hhigh : 0xD800 ≤ high ∧ high < 0xDC00)
    (hlow : 0xDC00 ≤ low ∧ low < 0xE000)
    (h : c.toNat = 0x10000 + (high - 0xD800) * 0x400 + (low - 0xDC00)) : units c = [high, low] := by
  have first : 0xD800 + (c.toNat - 0x10000) / 0x400 = high := by omega
  have second : 0xDC00 + (c.toNat - 0x10000) % 0x400 = low := by omega
  rw [units, if_neg (by omega), first, second]

end Characters

section Units

variable {done cs : List Char} {us : List Nat}

theorem ofUnits_units (done : List Char) (c : Char) (rest : List Nat) :
    ofUnits done (units c ++ rest) = ofUnits (c :: done) rest := by
  have valid := toNat_valid c
  rw [units]
  split
  · have itself : char? c.toNat = some c := char?_eq_some_iff.mpr rfl
    cases rest with
    | nil => simp [ofUnits, itself]
    | cons unit rest =>
      rw [List.singleton_append, ofUnits, if_neg (by omega), itself]
      rfl
  · have paired : char? (0x10000 + (0xD800 + (c.toNat - 0x10000) / 0x400 - 0xD800) * 0x400 +
        (0xDC00 + (c.toNat - 0x10000) % 0x400 - 0xDC00)) = some c := by
      refine char?_eq_some_iff.mpr ?_
      omega
    rw [List.cons_append, List.singleton_append, ofUnits, if_pos (by omega), if_pos (by omega), paired]
    rfl

theorem ofUnits_flatMap (done more : List Char) :
    ofUnits done (more.flatMap units) = some (done.reverse ++ more) := by
  induction more generalizing done with
  | nil => simp [ofUnits]
  | cons c more ih => rw [List.flatMap_cons, ofUnits_units, ih, List.reverse_cons, List.append_assoc,
      List.singleton_append]

theorem exists_of_ofUnits (small : ∀ u ∈ us, u < 0x10000) (h : ofUnits done us = some cs) :
    ∃ more, cs = done.reverse ++ more ∧ us = more.flatMap units := by
  fun_induction ofUnits done us with
  | case1 done =>
    cases h
    exact ⟨[], by simp⟩
  | case2 done high low rest hhigh hlow ih =>
    obtain ⟨c, hc, h⟩ := Option.bind_eq_some_iff.mp h
    obtain ⟨-, -, later⟩ := by simpa only [List.forall_mem_cons] using small
    obtain ⟨more, rfl, rfl⟩ := ih c later h
    refine ⟨c :: more, by simp, ?_⟩
    rw [List.flatMap_cons, units_of_surrogates hhigh hlow (char?_eq_some_iff.mp hc)]
    rfl
  | case3 => cases h
  | case4 done unit low rest other ih =>
    obtain ⟨c, hc, h⟩ := Option.bind_eq_some_iff.mp h
    obtain ⟨first, later⟩ := List.forall_mem_cons.mp small
    obtain ⟨more, rfl, behind⟩ := ih c later h
    obtain rfl := char?_eq_some_iff.mp hc
    refine ⟨c :: more, by simp, ?_⟩
    rw [List.flatMap_cons, units, if_pos first, behind]
    rfl
  | case5 done unit =>
    obtain ⟨c, hc, h⟩ := Option.bind_eq_some_iff.mp h
    cases h
    obtain rfl := char?_eq_some_iff.mp hc
    refine ⟨[c], by simp, ?_⟩
    rw [List.flatMap_singleton, units, if_pos (small _ List.mem_cons_self)]

theorem ofUnits_eq_some_iff (small : ∀ u ∈ us, u < 0x10000) :
    ofUnits [] us = some cs ↔ us = cs.flatMap units := by
  constructor
  · intro h
    obtain ⟨more, rfl, spelled⟩ := exists_of_ofUnits small h
    exact spelled
  · rintro rfl
    exact ofUnits_flatMap [] cs

end Units

section Chunks

variable {size : Nat} {bytes : List UInt8} {pieces done : List (List UInt8)} {numbers : List Nat}

theorem chunksOnto_flatten (positive : 0 < size) (whole : ∀ p ∈ pieces, p.length = size)
    (done : List (List UInt8)) : chunksOnto size done pieces.flatten = done.reverse ++ pieces := by
  induction pieces generalizing done with
  | nil =>
    rw [chunksOnto]
    simp
  | cons p pieces ih =>
    obtain ⟨rfl, later⟩ := List.forall_mem_cons.mp whole
    have more : ¬ ((p ++ pieces.flatten).isEmpty ∨ p.length = 0) := by
      simp [List.length_pos_iff.mp positive]
    rw [List.flatten_cons, chunksOnto, dif_neg more, List.take_left, List.drop_left, ih later,
      List.reverse_cons, List.append_assoc, List.singleton_append]

/-- A list whose length is a multiple of the size is made of pieces of that size. -/
theorem exists_pieces (count : Nat) (length : bytes.length = count * size) :
    ∃ pieces : List (List UInt8), (∀ p ∈ pieces, p.length = size) ∧ pieces.flatten = bytes := by
  induction count generalizing bytes with
  | zero =>
    rw [Nat.zero_mul] at length
    exact ⟨[], by simp, (List.length_eq_zero_iff.mp length).symm⟩
  | succ count ih =>
    rw [Nat.succ_mul] at length
    have shorter : (bytes.drop size).length = count * size := by
      rw [List.length_drop]
      omega
    obtain ⟨pieces, whole, behind⟩ := ih shorter
    refine ⟨bytes.take size :: pieces, List.forall_mem_cons.mpr ⟨?_, whole⟩, ?_⟩
    · rw [List.length_take]
      omega
    · rw [List.flatten_cons, behind, List.take_append_drop]

/-- Numbers of a fixed width are read off exactly the bytes that encode them. -/
theorem chunks_value_iff (positive : 0 < size) :
    bytes.length % size = 0 ∧ (chunks size bytes).map BigEndian.value = numbers ↔
      (∀ n ∈ numbers, n < 256 ^ size) ∧ bytes = numbers.flatMap (BigEndian.encode size) := by
  constructor
  · rintro ⟨multiple, rfl⟩
    obtain ⟨pieces, whole, rfl⟩ := exists_pieces (bytes.length / size)
      (Nat.div_mul_cancel (Nat.dvd_of_mod_eq_zero multiple)).symm
    rw [chunks, chunksOnto_flatten positive whole, List.reverse_nil, List.nil_append]
    refine ⟨?_, ?_⟩
    · intro n mem
      obtain ⟨p, hp, rfl⟩ := List.mem_map.mp mem
      exact whole p hp ▸ BigEndian.value_lt p
    · have again : ∀ p ∈ pieces, (BigEndian.encode size ∘ BigEndian.value) p = id p := by
        intro p hp
        rw [Function.comp_apply, ← whole p hp, BigEndian.encode_value, id]
      rw [List.flatMap_def, List.map_map, List.map_congr_left again, List.map_id]
  · rintro ⟨small, rfl⟩
    have whole : ∀ p ∈ numbers.map (BigEndian.encode size), p.length = size := by
      intro p mem
      obtain ⟨n, -, rfl⟩ := List.mem_map.mp mem
      exact BigEndian.length_encode size n
    refine ⟨?_, ?_⟩
    · simp [List.length_flatMap, List.map_const']
    · have again : ∀ n ∈ numbers, (BigEndian.value ∘ BigEndian.encode size) n = id n :=
        fun n mem => BigEndian.value_encode (small n mem)
      rw [List.flatMap_def, chunks, chunksOnto_flatten positive whole, List.reverse_nil, List.nil_append,
        List.map_map, List.map_congr_left again, List.map_id]

end Chunks

theorem mapM_char?_eq_some_iff {numbers : List Nat} {cs : List Char} :
    numbers.mapM char? = some cs ↔ numbers = cs.map Char.toNat := by
  induction numbers generalizing cs with
  | nil => simp [eq_comm]
  | cons n numbers ih =>
    rw [List.mapM_cons]
    constructor
    · intro h
      obtain ⟨c, hc, h⟩ := Option.bind_eq_some_iff.mp h
      obtain ⟨more, hmore, h⟩ := Option.bind_eq_some_iff.mp h
      cases h
      rw [List.map_cons, char?_eq_some_iff.mp hc, ih.mp hmore]
    · intro h
      cases cs with
      | nil => cases h
      | cons c more =>
        obtain ⟨first, later⟩ := List.cons.inj h
        rw [char?_eq_some_iff.mpr first.symm, ih.mpr later]
        rfl

theorem map_ofList_eq_some_iff {o : Option (List Char)} {s : String} :
    o.map String.ofList = some s ↔ o = some s.toList := by
  constructor
  · intro h
    obtain ⟨cs, rfl, rfl⟩ := Option.map_eq_some_iff.mp h
    rw [String.toList_ofList]
  · rintro rfl
    rw [Option.map_some, String.ofList_toList]

/-- Text that is read from numbers of a fixed width is spelled with those numbers. -/
theorem wide_eq_some_iff {size : Nat} (positive : 0 < size) {read : List Nat → Option (List Char)}
    {code : List Char → List Nat}
    (reads : ∀ numbers cs, (∀ n ∈ numbers, n < 256 ^ size) → (read numbers = some cs ↔ numbers = code cs))
    (small : ∀ cs, ∀ n ∈ code cs, n < 256 ^ size) {bytes : List UInt8} {s : String} :
    (if bytes.length % size = 0 then (read ((chunks size bytes).map BigEndian.value)).map String.ofList
      else none) = some s ↔ bytes = (code s.toList).flatMap (BigEndian.encode size) := by
  constructor
  · intro h
    split at h
    · rename_i multiple
      obtain ⟨bounded, spelled⟩ := (chunks_value_iff positive).mp ⟨multiple, rfl⟩
      have numbers := (reads _ _ bounded).mp (map_ofList_eq_some_iff.mp h)
      rwa [numbers] at spelled
    · cases h
  · intro h
    obtain ⟨multiple, numbers⟩ := (chunks_value_iff positive).mpr ⟨small _, h⟩
    rw [if_pos multiple, numbers]
    exact map_ofList_eq_some_iff.mpr ((reads _ _ (small _)).mpr rfl)

theorem decode?_latin1_eq_some_iff {bytes : List UInt8} {s : String} :
    latin1.decode? bytes = some s ↔ latin1.Spells s bytes := by
  have code : ∀ b : UInt8, (Char.ofNat b.toNat).toNat = b.toNat := by
    intro b
    have small := b.toNat_lt
    rw [Char.ofNat, dif_pos (Or.inl (by omega))]
    rfl
  constructor
  · intro h
    cases h
    rw [Spells, String.toList_ofList, List.map_map]
    exact List.map_congr_left fun b _ => code b
  · intro h
    have back : (s.toList.map Char.toNat).map Char.ofNat = s.toList := by
      have again : ∀ c ∈ s.toList, (Char.ofNat ∘ Char.toNat) c = id c := fun c _ => c.ofNat_toNat
      rw [List.map_map, List.map_congr_left again, List.map_id]
    rw [Spells] at h
    rw [h, List.map_map] at back
    refine congrArg some (String.toList_injective ?_)
    rw [String.toList_ofList]
    exact back

/-- The reader gives a text for the bytes that spell it, and for no others. -/
theorem decode?_eq_some_iff {kind : TextKind} {bytes : List UInt8} {s : String} :
    kind.decode? bytes = some s ↔ kind.Spells s bytes := by
  cases kind with
  | utf8 =>
    constructor
    · exact fun h => (Utf8.encode_of_decode? h).symm
    · rintro rfl
      exact Utf8.decode?_encode s
  | latin1 => exact decode?_latin1_eq_some_iff
  | utf16 =>
    refine wide_eq_some_iff (by decide) (fun numbers cs bounded => ofUnits_eq_some_iff bounded) ?_
    intro cs u mem
    obtain ⟨c, -, mem⟩ := List.mem_flatMap.mp mem
    exact units_lt mem
  | utf32 =>
    have split : (chunks 4 bytes).mapM (fun c => char? (BigEndian.value c)) =
        ((chunks 4 bytes).map BigEndian.value).mapM char? := by
      rw [List.mapM_map]
      rfl
    rw [decode?, split]
    refine wide_eq_some_iff (by decide) (fun numbers cs _ => mapM_char?_eq_some_iff) ?_
    intro cs n mem
    obtain ⟨c, -, rfl⟩ := List.mem_map.mp mem
    exact Nat.lt_of_lt_of_le c.val.toNat_lt (by decide)

theorem decode_eq_ok_iff {kind : TextKind} {bytes : List UInt8} {s : String} :
    kind.decode bytes = .ok s ↔ kind.Spells s bytes := by
  rw [← decode?_eq_some_iff, decode]
  cases kind.decode? bytes <;> simp

end Roster.TextKind

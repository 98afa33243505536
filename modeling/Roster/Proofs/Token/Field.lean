import Mathlib.Algebra.Group.Nat.Defs
import Mathlib.Data.List.Induction
import Roster.Token.Reader
import Roster.Token.Writer

/-!
# Fields of a record

A reader and a writer are set against a relation between a value and the bytes that stand for
it. A writer appends bytes that stand for its value or fails; a reader takes exactly such bytes
off the front. Both laws pass through a bind, so those of a record follow from those of its
fields. Which error a failing field gives is not part of the laws.
-/

namespace Roster

theorem BigEndian.value_lt (bytes : List UInt8) : BigEndian.value bytes < 256 ^ bytes.length := by
  induction bytes using List.reverseRecOn with
  | nil => simp [BigEndian.value]
  | append_singleton bytes b ih =>
    have hb := b.toNat_lt
    rw [BigEndian.value_append_singleton, List.length_append, List.length_singleton, Nat.pow_succ]
    omega

theorem BigEndian.encode_value (bytes : List UInt8) :
    BigEndian.encode bytes.length (BigEndian.value bytes) = bytes := by
  induction bytes using List.reverseRecOn with
  | nil => rfl
  | append_singleton bytes b ih =>
    have hb := b.toNat_lt
    have hdiv : (BigEndian.value bytes * 256 + b.toNat) / 256 = BigEndian.value bytes := by omega
    have hmod : UInt8.ofNat (BigEndian.value bytes * 256 + b.toNat) = b := by
      apply UInt8.toNat_inj.mp
      rw [UInt8.toNat_ofNat']
      omega
    rw [BigEndian.value_append_singleton, List.length_append, List.length_singleton,
      BigEndian.encode, hdiv, hmod, ih]

namespace Field

/-- The bytes that stand for a number in a record. -/
def u16 (n : UInt16) : List UInt8 := BigEndian.encode 2 n.toNat

def u32 (n : UInt32) : List UInt8 := BigEndian.encode 4 n.toNat

def bool (b : Bool) : List UInt8 := [if b then 1 else 0]

def text (s : String) : List UInt8 := BigEndian.encode 2 (Utf8.size s) ++ Utf8.encode s

def optionalText : Option String → List UInt8
  | some s => bool true ++ text s
  | none => bool false

/-- A text that a two-byte length can announce. -/
def Fits (s : String) : Prop := Utf8.size s ≤ Writer.textLimit

theorem Fits.toNat_size {s : String} (h : Fits s) :
    (UInt16.ofNat (Utf8.size s)).toNat = Utf8.size s := by
  rw [Fits, Writer.textLimit] at h
  rw [UInt16.toNat_ofNat']
  omega

end Field

namespace Writer

/-- The writer succeeds with the bytes of `E` behind what was written before, and only so. -/
def Writes (w : Writer Unit) (E : List UInt8 → Prop) : Prop :=
  ∀ before after, w.extend before = (.ok (), after) ↔ ∃ bs, E bs ∧ after = before ++ bs

theorem Writes.congr {w : Writer Unit} {E E' : List UInt8 → Prop} (h : Writes w E)
    (same : ∀ bs, E bs ↔ E' bs) : Writes w E' := by
  intro before after
  simpa only [same] using h before after

theorem extend_bind (v w : Writer Unit) (before : List UInt8) :
    (v >>= fun _ => w).extend before =
      match v.extend before with
      | (.ok (), middle) => w.extend middle
      | (.error e, middle) => (.error e, middle) := by
  simp only [extend, ExceptT.run_bind, StateT.run_bind]
  rcases StateT.run (ExceptT.run v) before with ⟨_ | _, _⟩ <;> rfl

theorem Writes.bind {v w : Writer Unit} {E E' : List UInt8 → Prop} (hv : Writes v E)
    (hw : Writes w E') :
    Writes (v >>= fun _ => w) (fun bs => ∃ b b', E b ∧ E' b' ∧ bs = b ++ b') := by
  intro before after
  rw [extend_bind]
  constructor
  · intro h
    rcases hm : v.extend before with ⟨_ | _, middle⟩
    · rw [hm] at h
      cases h
    · rw [hm] at h
      obtain ⟨b, hb, rfl⟩ := (hv before middle).mp hm
      obtain ⟨b', hb', rfl⟩ := (hw _ after).mp h
      exact ⟨b ++ b', ⟨b, b', hb, hb', rfl⟩, by rw [List.append_assoc]⟩
  · rintro ⟨_, ⟨b, b', hb, hb', rfl⟩, rfl⟩
    have hm := (hv before _).mpr ⟨b, hb, rfl⟩
    rw [hm]
    exact (hw _ _).mpr ⟨b', hb', by rw [List.append_assoc]⟩

theorem writes_bytes (bs : List UInt8) : Writes (bytes bs) (· = bs) := by
  intro before after
  change (Except.ok (), before ++ bs) = (Except.ok (), after) ↔ _
  simp [eq_comm]

theorem writes_nothing : Writes (pure ()) (· = []) := by
  intro before after
  change (Except.ok (), before) = (Except.ok (), after) ↔ _
  simp [eq_comm]

theorem writes_u8 (n : UInt8) : Writes (u8 n) (· = [n]) := writes_bytes [n]

theorem writes_u16 (n : UInt16) : Writes (u16 n) (· = Field.u16 n) := writes_bytes _

theorem writes_u32 (n : UInt32) : Writes (u32 n) (· = Field.u32 n) := writes_bytes _

theorem writes_bool (b : Bool) : Writes (bool b) (· = Field.bool b) := writes_bytes _

theorem writes_text (s : String) : Writes (text s) (fun bs => Field.Fits s ∧ bs = Field.text s) := by
  rw [text]
  by_cases fits : Field.Fits s
  · rw [if_pos (show Utf8.size s ≤ textLimit from fits)]
    apply ((writes_u16 _).bind (writes_bytes _)).congr
    intro bs
    simp [fits, Field.text, Field.u16, fits.toNat_size]
  · rw [if_neg (show ¬ Utf8.size s ≤ textLimit from fits)]
    intro before after
    change (Except.error _, before) = (Except.ok (), after) ↔ _
    simp [fits]

theorem writes_optionalText (o : Option String) :
    Writes (optionalText o) (fun bs => (∀ s ∈ o, Field.Fits s) ∧ bs = Field.optionalText o) := by
  cases o with
  | none =>
    apply (writes_bool false).congr
    simp [Field.optionalText]
  | some s =>
    apply ((writes_bool true).bind (writes_text s)).congr
    simp [Field.optionalText]

theorem record_eq_ok_iff {w : Writer Unit} {E : List UInt8 → Prop} (h : Writes w E)
    {bs : List UInt8} : w.record = .ok bs ↔ E bs := by
  have he := h [] bs
  simp only [List.nil_append, exists_eq_right'] at he
  rw [← he, record]
  rcases w.extend [] with ⟨_ | _, _⟩ <;> simp

end Writer

namespace Reader

variable {α β : Type}

/-- The bytes behind a field may be anything; behind the last one there are none. -/
def Anything (_ : List UInt8) : Prop := True

def Nothing (rest : List UInt8) : Prop := rest = []

/-- The reader takes bytes that stand for its value by `E` off the front, when what they leave is
as `behind` says, and succeeds on nothing else. -/
def Reads (behind : List UInt8 → Prop) (r : Reader α) (E : α → List UInt8 → Prop) : Prop :=
  ∀ c a c', r.continueFrom c = (.ok a, c') ↔
    ∃ bs rest, E a bs ∧ behind rest ∧ c.rest = bs ++ rest ∧
      c' = ⟨c.index, c.offset + bs.length, rest⟩

theorem Reads.congr {behind : List UInt8 → Prop} {r : Reader α} {E E' : α → List UInt8 → Prop}
    (h : Reads behind r E) (same : ∀ a bs, E a bs ↔ E' a bs) : Reads behind r E' := by
  intro c a c'
  simpa only [same] using h c a c'

theorem continueFrom_bind (r : Reader α) (f : α → Reader β) (c : Cursor) :
    (r >>= f).continueFrom c =
      match r.continueFrom c with
      | (.ok a, c') => (f a).continueFrom c'
      | (.error e, c') => (.error e, c') := by
  simp only [continueFrom, ExceptT.run_bind, StateT.run_bind]
  rcases StateT.run (ExceptT.run r) c with ⟨_ | _, _⟩ <;> rfl

theorem Reads.bind {behind : List UInt8 → Prop} {r : Reader α} {f : α → Reader β}
    {E : α → List UInt8 → Prop} {E' : α → β → List UInt8 → Prop} (hr : Reads Anything r E)
    (hf : ∀ a, Reads behind (f a) (E' a)) :
    Reads behind (r >>= f) (fun b bs => ∃ a p q, E a p ∧ E' a b q ∧ bs = p ++ q) := by
  intro c b c'
  rw [continueFrom_bind]
  constructor
  · intro h
    rcases hm : r.continueFrom c with ⟨_ | a, middle⟩
    · rw [hm] at h
      cases h
    · rw [hm] at h
      obtain ⟨p, _, hp, _, hrest, rfl⟩ := (hr c a middle).mp hm
      obtain ⟨q, rest, hq, hbehind, rfl, rfl⟩ := (hf a _ b c').mp h
      refine ⟨p ++ q, rest, ⟨a, p, q, hp, hq, rfl⟩, hbehind, ?_, ?_⟩
      · rw [hrest, List.append_assoc]
      · rw [List.length_append, Nat.add_assoc]
  · rintro ⟨_, rest, ⟨a, p, q, hp, hq, rfl⟩, hbehind, hrest, rfl⟩
    have hm := (hr c a _).mpr ⟨p, q ++ rest, hp, trivial, by rw [hrest, List.append_assoc], rfl⟩
    rw [hm]
    refine (hf a _ b _).mpr ⟨q, rest, hq, hbehind, rfl, ?_⟩
    rw [List.length_append, Nat.add_assoc]

theorem reads_pure (a : α) : Reads Anything (pure a) (fun x bs => x = a ∧ bs = []) := by
  rintro ⟨index, offset, rest⟩ x c'
  change (Except.ok a, _) = (Except.ok x, c') ↔ _
  simp [Anything, eq_comm]

/-- A record's last step: nothing may be left. -/
theorem reads_finish (a : α) :
    Reads Nothing (finish >>= fun _ => pure a) (fun x bs => x = a ∧ bs = []) := by
  rintro ⟨index, offset, rest⟩ x c'
  cases rest with
  | nil =>
    change (Except.ok a, _) = (Except.ok x, c') ↔ _
    simp [Nothing, eq_comm]
  | cons b rest =>
    change (Except.error _, _) = (Except.ok x, c') ↔ _
    simp [Nothing]

theorem reads_ofExcept (e : Except StreamError α) :
    Reads Anything (MonadExcept.ofExcept e) (fun x bs => e = .ok x ∧ bs = []) := by
  cases e with
  | ok a =>
    apply (reads_pure a).congr
    simp [eq_comm]
  | error e =>
    intro c x c'
    change (Except.error _, _) = (Except.ok x, c') ↔ _
    simp

theorem continueFrom_bytes (n : Nat) (field : String) (index offset : Nat) (rest : List UInt8) :
    (bytes n field).continueFrom ⟨index, offset, rest⟩ =
      if enough : n ≤ rest.length then
        (.ok ⟨rest.take n, List.length_take_of_le enough⟩, ⟨index, offset + n, rest.drop n⟩)
      else (.error (.malformedToken index (.truncated field offset)), ⟨index, offset, rest⟩) := by
  rw [bytes, continueFrom_bind]
  change Reader.continueFrom (if h : n ≤ rest.length then _ else _) _ = _
  by_cases enough : n ≤ rest.length
  · rw [dif_pos enough, dif_pos enough]
    rfl
  · rw [dif_neg enough, dif_neg enough]
    rfl

theorem reads_bytes (n : Nat) (field : String) :
    Reads Anything (bytes n field) (fun x bs => bs = x.val) := by
  rintro ⟨index, offset, rest⟩ x c'
  rw [continueFrom_bytes]
  by_cases enough : n ≤ rest.length
  · rw [dif_pos enough]
    constructor
    · intro h
      cases h
      exact ⟨_, _, rfl, trivial, (List.take_append_drop n rest).symm, by simp [enough]⟩
    · rintro ⟨_, tail, rfl, -, happ, rfl⟩
      simp only at happ
      subst happ
      obtain ⟨x, rfl⟩ := x
      simp
  · rw [dif_neg enough]
    constructor
    · intro h
      cases h
    · rintro ⟨_, tail, rfl, -, happ, -⟩
      simp only at happ
      rw [happ, List.length_append, x.property] at enough
      omega

/-- A number of fixed width has one spelling. -/
theorem reads_digits (width : Nat) (field : String) {ofNat : Nat → α} {toNat : α → Nat}
    (small : ∀ a, toNat a < 256 ^ width) (ofNat_toNat : ∀ a, ofNat (toNat a) = a)
    (toNat_ofNat : ∀ n, n < 256 ^ width → toNat (ofNat n) = n) :
    Reads Anything (bytes width field >>= fun x => pure (ofNat (BigEndian.value x.val)))
      (fun a bs => bs = BigEndian.encode width (toNat a)) := by
  apply ((reads_bytes width field).bind fun x => reads_pure _).congr
  intro a bs
  constructor
  · rintro ⟨digits, _, _, rfl, ⟨rfl, rfl⟩, rfl⟩
    -- of the digits read, their number has that many digits again, so it spells them back
    have hval := BigEndian.value_lt digits.val
    have hspell := BigEndian.encode_value digits.val
    rw [digits.property] at hval hspell
    rw [List.append_nil, toNat_ofNat _ hval, hspell]
  · rintro rfl
    have hval : ofNat (BigEndian.value (BigEndian.encode width (toNat a))) = a := by
      rw [BigEndian.value_encode (small a), ofNat_toNat]
    exact ⟨⟨_, BigEndian.length_encode width (toNat a)⟩, _, [], rfl, ⟨hval.symm, rfl⟩, by simp⟩

theorem reads_u8 (field : String) : Reads Anything (u8 field) (fun n bs => bs = [n]) := by
  apply (reads_digits 1 field (fun n : UInt8 => n.toNat_lt) (fun n => UInt8.ofNat_toNat)
    (fun n hn => by rw [UInt8.toNat_ofNat']; omega)).congr
  intro n bs
  simp [BigEndian.encode]

theorem reads_u16 (field : String) : Reads Anything (u16 field) (fun n bs => bs = Field.u16 n) :=
  reads_digits 2 field (fun n : UInt16 => n.toNat_lt) (fun n => UInt16.ofNat_toNat)
    (fun n hn => by rw [UInt16.toNat_ofNat']; omega)

theorem reads_u32 (field : String) : Reads Anything (u32 field) (fun n bs => bs = Field.u32 n) :=
  reads_digits 4 field (fun n : UInt32 => n.toNat_lt) (fun n => UInt32.ofNat_toNat)
    (fun n hn => by rw [UInt32.toNat_ofNat']; omega)

theorem reads_fail (f : TokenFault) : Reads Anything (fail f : Reader α) (fun _ _ => False) := by
  intro c a c'
  change (Except.error _, _) = (Except.ok a, c') ↔ _
  simp

theorem reads_bool (field : String) :
    Reads Anything (bool field) (fun b bs => bs = Field.bool b) := by
  have step : ∀ n, Reads Anything (if n = 0 then pure false else if n = 1 then pure true
      else fail (.notBoolean field n)) (fun b bs => [n] = Field.bool b ∧ bs = []) := by
    intro n
    by_cases h0 : n = 0
    · subst h0
      apply (reads_pure false).congr
      intro b bs
      cases b <;> simp [Field.bool]
    · by_cases h1 : n = 1
      · subst h1
        apply (reads_pure true).congr
        intro b bs
        cases b <;> simp [Field.bool]
      · rw [if_neg h0, if_neg h1]
        apply (reads_fail _).congr
        intro b bs
        cases b <;> simp [Field.bool, h0, h1]
  apply ((reads_u8 field).bind step).congr
  intro b bs
  constructor
  · rintro ⟨n, _, _, rfl, ⟨hn, rfl⟩, rfl⟩
    simpa using hn
  · rintro rfl
    exact ⟨if b then 1 else 0, _, [], rfl, ⟨rfl, rfl⟩, rfl⟩

theorem reads_decoded (field : String) (raw : List UInt8) :
    Reads Anything (match Utf8.decode? raw with | some s => pure s | none => fail (.notUtf8 field))
      (fun s bs => Utf8.encode s = raw ∧ bs = []) := by
  cases h : Utf8.decode? raw with
  | some s =>
    apply (reads_pure s).congr
    intro a bs
    have hs := Utf8.encode_of_decode? h
    rw [← hs]
    exact and_congr_left fun _ => ⟨fun e => e ▸ rfl, Utf8.encode_injective⟩
  | none =>
    apply (reads_fail _).congr
    intro a bs
    refine ⟨False.elim, fun ⟨e, _⟩ => ?_⟩
    rw [← e, Utf8.decode?_encode] at h
    cases h

/-- A text's bytes, once their number is known. -/
theorem reads_sized (field : String) (n : Nat) :
    Reads Anything (bytes n field >>= fun raw =>
        match Utf8.decode? raw.val with | some s => pure s | none => fail (.notUtf8 field))
      (fun s bs => Utf8.size s = n ∧ bs = Utf8.encode s) := by
  apply ((reads_bytes n field).bind fun raw => reads_decoded field raw.val).congr
  intro s bs
  constructor
  · rintro ⟨raw, _, _, rfl, ⟨hs, rfl⟩, rfl⟩
    refine ⟨?_, by rw [List.append_nil, hs]⟩
    rw [← Utf8.length_encode, hs, raw.property]
  · rintro ⟨hs, rfl⟩
    exact ⟨⟨_, (Utf8.length_encode s).trans hs⟩, _, [], rfl, ⟨rfl, rfl⟩, by simp⟩

theorem reads_text (field : String) :
    Reads Anything (text field) (fun s bs => Field.Fits s ∧ bs = Field.text s) := by
  apply ((reads_u16 field).bind fun n => reads_sized field n.toNat).congr
  intro s bs
  constructor
  · rintro ⟨n, _, _, rfl, ⟨hs, rfl⟩, rfl⟩
    have hn := n.toNat_lt
    refine ⟨?_, by rw [Field.text, Field.u16, hs]⟩
    rw [Field.Fits, Writer.textLimit]
    omega
  · rintro ⟨fits, rfl⟩
    have hsize := fits.toNat_size
    exact ⟨UInt16.ofNat (Utf8.size s), _, _, rfl, ⟨hsize.symm, rfl⟩, by
      rw [Field.u16, hsize, Field.text]⟩

theorem reads_optionalText (field : String) :
    Reads Anything (optionalText field)
      (fun o bs => (∀ s ∈ o, Field.Fits s) ∧ bs = Field.optionalText o) := by
  have step : ∀ b : Bool, Reads Anything
      (if b then (do return some (← text field)) else pure none)
      (fun o bs => o.isSome = b ∧ (∀ s ∈ o, Field.Fits s) ∧
        bs = o.elim [] Field.text) := by
    intro b
    cases b with
    | false =>
      apply (reads_pure none).congr
      intro o bs
      cases o <;> simp
    | true =>
      apply ((reads_text field).bind fun s => reads_pure (some s)).congr
      intro o bs
      cases o <;> simp
  apply ((reads_bool field).bind step).congr
  intro o bs
  cases o <;> simp [Field.optionalText]

theorem token_eq_ok_iff {behind : List UInt8 → Prop} {r : Reader α} {E : α → List UInt8 → Prop}
    (h : Reads behind r E) {index : Nat} {bs : List UInt8} {a : α} :
    r.token index bs = .ok a ↔ ∃ p rest, E a p ∧ behind rest ∧ bs = p ++ rest := by
  rw [token]
  constructor
  · intro ha
    obtain ⟨p, rest, hp, hbehind, hbs, -⟩ := (h _ a _).mp (Prod.ext ha rfl)
    exact ⟨p, rest, hp, hbehind, hbs⟩
  · rintro ⟨p, rest, hp, hbehind, hbs⟩
    rw [(h _ a _).mpr ⟨p, rest, hp, hbehind, hbs, rfl⟩]

theorem whole_token_eq_ok_iff {r : Reader α} {E : α → List UInt8 → Prop} (h : Reads Nothing r E)
    {index : Nat} {bs : List UInt8} {a : α} : r.token index bs = .ok a ↔ E a bs := by
  rw [token_eq_ok_iff h]
  simp [Nothing]

end Reader

end Roster

/-! # Lowercase hexadecimal digits

Two digits a byte, the high half first. Reading accepts exactly what writing produces. -/

namespace Roster.Hex

/-- The digit of a value below sixteen. -/
def digit (n : Nat) : Char := if n < 10 then Char.ofNat (48 + n) else Char.ofNat (87 + n)

def value? (c : Char) : Option Nat :=
  if '0' ≤ c ∧ c ≤ '9' then some (c.toNat - 48)
  else if 'a' ≤ c ∧ c ≤ 'f' then some (c.toNat - 87)
  else none

def isDigit (c : Char) : Bool := (value? c).isSome

def pair (b : UInt8) : List Char := [digit (b.toNat / 16), digit (b.toNat % 16)]

def encode (bytes : List UInt8) : List Char := bytes.flatMap pair

def text (bytes : List UInt8) : String := String.ofList (encode bytes)

/-- Reads digits behind the bytes already read, which are held last first. -/
def decodeOnto (done : List UInt8) : List Char → Option (List UInt8)
  | [] => some done.reverse
  | [_] => none
  | high :: low :: rest =>
    match value? high, value? low with
    | some x, some y => decodeOnto (UInt8.ofNat (16 * x + y) :: done) rest
    | _, _ => none

def decode? (digits : List Char) : Option (List UInt8) := decodeOnto [] digits

theorem value?_digit {n : Nat} (h : n < 16) : value? (digit n) = some n := by
  have all : ∀ n : Fin 16, value? (digit n.val) = some n.val := by decide
  exact all ⟨n, h⟩

theorem value?_lt {c : Char} {n : Nat} (h : value? c = some n) : n < 16 := by
  unfold value? at h
  split at h
  · rename_i hc
    have h2 : c.toNat ≤ 57 := hc.2
    cases h
    omega
  · split at h
    · rename_i hc
      have h2 : c.toNat ≤ 102 := hc.2
      cases h
      omega
    · cases h

theorem digit_value? {c : Char} {n : Nat} (h : value? c = some n) : digit n = c := by
  unfold value? at h
  split at h
  · rename_i hc
    have h1 : 48 ≤ c.toNat := hc.1
    have h2 : c.toNat ≤ 57 := hc.2
    cases h
    simp only [digit, show c.toNat - 48 < 10 by omega, ↓reduceIte]
    rw [show 48 + (c.toNat - 48) = c.toNat by omega]
    exact Char.ofNat_toNat c
  · split at h
    · rename_i hc
      have h1 : 97 ≤ c.toNat := hc.1
      have h2 : c.toNat ≤ 102 := hc.2
      cases h
      simp only [digit, show ¬ c.toNat - 87 < 10 by omega, ↓reduceIte]
      rw [show 87 + (c.toNat - 87) = c.toNat by omega]
      exact Char.ofNat_toNat c
    · cases h

theorem decodeOnto_encode (done bytes : List UInt8) :
    decodeOnto done (encode bytes) = some (done.reverse ++ bytes) := by
  induction bytes generalizing done with
  | nil => simp [encode, decodeOnto]
  | cons b bytes ih =>
    have hb := b.toNat_lt
    have step : encode (b :: bytes) =
        digit (b.toNat / 16) :: digit (b.toNat % 16) :: encode bytes := rfl
    rw [step, decodeOnto, value?_digit (by omega), value?_digit (by omega)]
    simp only [ih, show 16 * (b.toNat / 16) + b.toNat % 16 = b.toNat by omega]
    simp

theorem decode?_encode (bytes : List UInt8) : decode? (encode bytes) = some bytes := by
  simp [decode?, decodeOnto_encode]

theorem encode_of_decodeOnto {done bytes : List UInt8} {digits : List Char}
    (h : decodeOnto done digits = some bytes) : ∃ more, bytes = done.reverse ++ more ∧
      encode more = digits := by
  fun_induction decodeOnto done digits generalizing bytes with
  | case1 done => exact ⟨[], by simpa using h.symm, rfl⟩
  | case2 => cases h
  | case3 done high low rest x y hx hy ih =>
    obtain ⟨more, rfl, hmore⟩ := ih h
    have hx16 := value?_lt hx
    have hy16 := value?_lt hy
    have hn : (UInt8.ofNat (16 * x + y)).toNat = 16 * x + y := by
      simp only [UInt8.toNat_ofNat']
      omega
    refine ⟨UInt8.ofNat (16 * x + y) :: more, by simp, ?_⟩
    have step : encode (UInt8.ofNat (16 * x + y) :: more) =
        pair (UInt8.ofNat (16 * x + y)) ++ encode more := rfl
    rw [step, hmore, pair, hn, show (16 * x + y) / 16 = x by omega,
      show (16 * x + y) % 16 = y by omega, digit_value? hx, digit_value? hy]
    rfl
  | case4 => cases h

theorem encode_of_decode? {digits : List Char} {bytes : List UInt8}
    (h : decode? digits = some bytes) : encode bytes = digits := by
  obtain ⟨more, rfl, hmore⟩ := encode_of_decodeOnto h
  simpa using hmore

theorem decode?_eq_some_iff {digits : List Char} {bytes : List UInt8} :
    decode? digits = some bytes ↔ digits = encode bytes :=
  ⟨fun h => (encode_of_decode? h).symm, fun h => h ▸ decode?_encode bytes⟩

end Roster.Hex

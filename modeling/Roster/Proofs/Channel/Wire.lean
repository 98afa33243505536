import Roster.Channel.Wire

/-!
# Wires to a far side that keeps up

The far side of such a wire takes at least a byte of every write and fails no flush, and what it sends
arrives whole, cut into chunks of any size. A reader that asks for so many bytes at a time gets them in reads of at
most that size.
-/

namespace Roster.Wire

/-- The wire gives these chunks of bytes and then the end of the stream. -/
structure Gives (w : Wire) (chunks : List (List UInt8)) : Prop where
  arrivals : w.arrivals = chunks.map .bytes
  nonempty : ∀ chunk ∈ chunks, chunk ≠ []

/-- No write fails, and none is stuck; no flush fails. -/
structure Willing (w : Wire) : Prop where
  takes : ∀ a ∈ w.acceptances, ∃ n, a = .upTo (n + 1)
  flushes : ∀ f ∈ w.flushes, ∃ reached, f = .ends reached

theorem length_read {w after : Wire} {size : Nat} {bytes : List UInt8}
    (h : w.read size = (.ok bytes, after)) : bytes.length ≤ size := by
  rw [Wire.read.eq_def] at h
  split at h
  · cases h
    exact Nat.zero_le size
  · cases h
  · cases h
    exact List.length_take_le _ _

/-- A read gives some bytes and leaves the rest, unless nothing is left. -/
theorem Gives.read {w : Wire} {chunks : List (List UInt8)} (h : w.Gives chunks) {size : Nat}
    (positive : 0 < size) :
    chunks = [] ∧ w.read size = (.ok [], w) ∨
      ∃ byte bytes later after, w.read size = (.ok (byte :: bytes), after) ∧ after.Gives later ∧
        chunks.flatten = byte :: bytes ++ later.flatten := by
  obtain ⟨arrivals, acceptances, flushes, sent⟩ := w
  obtain ⟨rfl, nonempty⟩ := h
  cases chunks with
  | nil => exact Or.inl ⟨rfl, rfl⟩
  | cons chunk rest =>
    obtain ⟨first, others⟩ := List.forall_mem_cons.mp nonempty
    refine Or.inr ?_
    obtain ⟨byte, bytes, taken⟩ : ∃ byte bytes, chunk.take size = byte :: bytes := by
      refine List.exists_cons_of_ne_nil fun none => ?_
      rcases List.take_eq_nil_iff.mp none with zero | empty
      · omega
      · exact first empty
    have whole := List.take_append_drop size chunk
    cases left : chunk.drop size with
    | nil =>
      refine ⟨byte, bytes, rest, ⟨rest.map .bytes, acceptances, flushes, sent⟩, ?_, ⟨rfl, others⟩, ?_⟩
      · simp [Wire.read, taken, left]
      · rw [left, List.append_nil, taken] at whole
        rw [List.flatten_cons, ← whole]
    | cons c cs =>
      refine ⟨byte, bytes, (c :: cs) :: rest, ⟨((c :: cs) :: rest).map .bytes, acceptances, flushes, sent⟩,
        ?_, ⟨rfl, List.forall_mem_cons.mpr ⟨List.cons_ne_nil c cs, others⟩⟩, ?_⟩
      · simp [Wire.read, taken, left]
      · rw [left, taken] at whole
        rw [List.flatten_cons, ← whole, List.flatten_cons, List.append_assoc]

/-- Reads of a size give these bytes in turn, and then the end of the stream. -/
def Delivers (size : Nat) : Wire → List (List UInt8) → Prop
  | w, [] => w.read size = (.ok [], w)
  | w, bytes :: later => bytes ≠ [] ∧ bytes.length ≤ size ∧
      ∃ after, w.read size = (.ok bytes, after) ∧ Delivers size after later

theorem Delivers.small {w : Wire} {size : Nat} {reads : List (List UInt8)} (h : w.Delivers size reads) :
    ∀ read ∈ reads, read.length ≤ size := by
  induction reads generalizing w with
  | nil => exact List.forall_mem_nil _
  | cons bytes later ih =>
    obtain ⟨-, small, after, -, rest⟩ := h
    exact List.forall_mem_cons.mpr ⟨small, ih rest⟩

section

variable {w after : Wire} {size : Nat} {reads : List (List UInt8)}

theorem Delivers.not_failed {e : ChannelError} (h : w.Delivers size reads) : w.read size ≠ (.error e, after) := by
  intro failed
  cases reads with
  | nil => cases failed.symm.trans h
  | cons bytes later =>
    obtain ⟨-, -, _, got, -⟩ := h
    cases failed.symm.trans got

theorem Delivers.ended (h : w.Delivers size reads) (ended : w.read size = (.ok [], after)) :
    reads = [] ∧ after = w := by
  cases reads with
  | nil =>
    cases ended.symm.trans h
    exact ⟨rfl, rfl⟩
  | cons bytes later =>
    obtain ⟨some, -, _, got, -⟩ := h
    cases ended.symm.trans got
    exact absurd rfl some

theorem Delivers.got {byte : UInt8} {bytes : List UInt8} (h : w.Delivers size reads)
    (got : w.read size = (.ok (byte :: bytes), after)) :
    ∃ later, reads = (byte :: bytes) :: later ∧ after.Delivers size later := by
  cases reads with
  | nil => cases got.symm.trans h
  | cons first later =>
    obtain ⟨-, -, _, taken, rest⟩ := h
    cases got.symm.trans taken
    exact ⟨later, rfl, rest⟩

end

/-- Chunks that a read can take whole are read one by one. -/
theorem Gives.delivers {w : Wire} {chunks : List (List UInt8)} (h : w.Gives chunks) {size : Nat}
    (small : ∀ chunk ∈ chunks, chunk.length ≤ size) : w.Delivers size chunks := by
  obtain ⟨arrivals, acceptances, flushes, sent⟩ := w
  obtain ⟨rfl, nonempty⟩ := h
  induction chunks with
  | nil => rfl
  | cons chunk rest ih =>
    obtain ⟨first, others⟩ := List.forall_mem_cons.mp nonempty
    obtain ⟨fits, small⟩ := List.forall_mem_cons.mp small
    refine ⟨first, fits, ⟨rest.map .bytes, acceptances, flushes, sent⟩, ?_, ih small others⟩
    simp [Wire.read, List.take_of_length_le fits, List.drop_eq_nil_of_le fits]

/-- Chunks of any size are read in some reads. -/
theorem Gives.exists_delivers {w : Wire} {chunks : List (List UInt8)} (h : w.Gives chunks) {size : Nat}
    (positive : 0 < size) : ∃ reads, w.Delivers size reads ∧ reads.flatten = chunks.flatten := by
  induction left : chunks.flatten.length using Nat.strongRecOn generalizing w chunks with
  | _ n ih =>
    rcases h.read positive with ⟨rfl, ended⟩ | ⟨byte, bytes, later, after, got, gives, split⟩
    · exact ⟨[], ended, rfl⟩
    · have shorter : later.flatten.length < n := by
        rw [← left, split, List.length_append, List.length_cons]
        omega
      obtain ⟨reads, delivers, same⟩ := ih _ shorter gives rfl
      refine ⟨(byte :: bytes) :: reads, ⟨List.cons_ne_nil byte bytes, ?_, after, got, delivers⟩, ?_⟩
      · exact length_read got
      · rw [List.flatten_cons, same, split]

theorem read_sent (w : Wire) (size : Nat) : (w.read size).2.sent = w.sent := by
  rw [Wire.read.eq_def]
  split <;> rfl

/-- What a read gives depends on the arrivals only. -/
theorem read_congr {w v after : Wire} {size : Nat} {result : Except ChannelError (List UInt8)}
    (same : w.arrivals = v.arrivals) (read : w.read size = (result, after)) :
    ∃ after', v.read size = (result, after') ∧ after.arrivals = after'.arrivals := by
  obtain ⟨arrivals, acceptances, flushes, sent⟩ := w
  obtain ⟨_, acceptances', flushes', sent'⟩ := v
  cases same
  cases arrivals with
  | nil =>
    cases read
    exact ⟨_, rfl, rfl⟩
  | cons first rest =>
    cases first <;>
    · cases read
      exact ⟨_, rfl, rfl⟩

theorem Gives.of_arrivals {w v : Wire} {chunks : List (List UInt8)} (h : w.Gives chunks)
    (same : v.arrivals = w.arrivals) : v.Gives chunks := ⟨same.trans h.arrivals, h.nonempty⟩

/-- A flush uses up how it ends, and nothing else. -/
theorem flush_uses {w last : Wire} {result : Except ChannelError Bool} (flushed : w.flush = (result, last)) :
    last = { w with flushes := w.flushes.drop 1 } := by
  obtain ⟨arrivals, acceptances, flushes, sent⟩ := w
  rcases flushes with _ | ⟨reached | e, rest⟩ <;>
  · cases flushed
    rfl

theorem willing_ofArrivals (arrivals : List Arrival) : (ofArrivals arrivals).Willing :=
  ⟨List.forall_mem_nil _, List.forall_mem_nil _⟩

theorem Willing.write {w : Wire} (willing : w.Willing) (byte : UInt8) (bytes : List UInt8) :
    ∃ n after, w.write (byte :: bytes) = (.ok (n + 1), after) ∧ after.Willing := by
  obtain ⟨arrivals, acceptances, flushes, sent⟩ := w
  obtain ⟨takes, flushed⟩ := willing
  cases acceptances with
  | nil => exact ⟨bytes.length, _, rfl, takes, flushed⟩
  | cons a rest =>
    obtain ⟨⟨n, rfl⟩, others⟩ := List.forall_mem_cons.mp takes
    refine ⟨min n bytes.length, ⟨arrivals, rest, flushes, sent ++ (byte :: bytes).take (n + 1)⟩, ?_,
      others, flushed⟩
    simp [Wire.write, Nat.add_min_add_right]

theorem Willing.writeAll {w : Wire} (willing : w.Willing) (bytes : List UInt8) :
    ∃ after, w.writeAll bytes = (.ok (), after) ∧ after.Willing := by
  fun_induction Wire.writeAll bytes w with
  | case1 w => exact ⟨w, rfl, willing⟩
  | case2 w byte rest e after failed =>
    obtain ⟨_, _, written, -⟩ := willing.write byte rest
    cases failed.symm.trans written
  | case3 w byte rest after stuck =>
    obtain ⟨_, _, written, -⟩ := willing.write byte rest
    cases stuck.symm.trans written
  | case4 w byte rest n after taken ih =>
    obtain ⟨_, _, written, still⟩ := willing.write byte rest
    cases taken.symm.trans written
    exact ih still

theorem Willing.flush {w : Wire} (willing : w.Willing) : ∃ reached last, w.flush = (.ok reached, last) := by
  obtain ⟨arrivals, acceptances, flushes, sent⟩ := w
  cases flushes with
  | nil => exact ⟨true, _, rfl⟩
  | cons f rest =>
    obtain ⟨⟨reached, rfl⟩, -⟩ := List.forall_mem_cons.mp willing.flushes
    exact ⟨reached, _, rfl⟩

end Roster.Wire

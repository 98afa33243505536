import Mathlib.Algebra.GroupWithZero.Nat
import Roster.Admission.Line
import Roster.Proofs.Channel.Wire

/-!
# Writes that take a part

The far side may take any part of what a write offers, or nothing. Writing goes on with what is left, so
the bytes taken so far are always the front of those to be written, and it ends with the first write that
takes nothing or fails. Behind the last byte of a line the channel is flushed once.
-/

namespace Roster.Wire

/-- How many bytes a write that ends so has handed over. -/
def taken : Except ChannelError Nat → Nat
  | .ok n => n
  | .error _ => 0

/-- Why nothing is written behind a write that ends so. -/
def obstacle? : Except ChannelError Nat → Option ChannelError
  | .ok 0 => some (.transport .writeZero)
  | .ok (_ + 1) => none
  | .error e => some e

/-- Writes one behind the other, each of which offers what those before it have left. -/
inductive InTurn : List UInt8 → Wire → List (Except ChannelError Nat) → List UInt8 → Wire → Prop
  | none (bytes : List UInt8) (w : Wire) : InTurn bytes w [] bytes w
  | more {bytes left : List UInt8} {w next last : Wire} {outcome : Except ChannelError Nat}
      {outcomes : List (Except ChannelError Nat)} (written : w.write bytes = (outcome, next))
      (later : InTurn (bytes.drop (taken outcome)) next outcomes left last) :
      InTurn bytes w (outcome :: outcomes) left last

/-- Writing is over, as all has been taken or the last write stands in the way of the bytes left. -/
inductive Ended : List (Except ChannelError Nat) → List UInt8 → Except ChannelError Unit → Prop
  | all {outcomes : List (Except ChannelError Nat)} (free : ∀ o ∈ outcomes, obstacle? o = none) :
      Ended outcomes [] (.ok ())
  | stopped {before : List (Except ChannelError Nat)} {last : Except ChannelError Nat} {left : List UInt8}
      {e : ChannelError} (free : ∀ o ∈ before, obstacle? o = none) (stop : obstacle? last = some e)
      (some : left ≠ []) : Ended (before ++ [last]) left (.error e)

variable {bytes left : List UInt8} {w next last : Wire} {outcome : Except ChannelError Nat}
  {outcomes : List (Except ChannelError Nat)}

/-- A write hands over as many bytes as it says, from the front of those it offers, and uses up how it
ends. -/
theorem write_uses (written : w.write bytes = (outcome, next)) : taken outcome ≤ bytes.length ∧
    next = { w with acceptances := w.acceptances.drop 1, sent := w.sent ++ bytes.take (taken outcome) } := by
  obtain ⟨arrivals, acceptances, flushes, sent⟩ := w
  rcases acceptances with _ | ⟨n | e, rest⟩
  · cases written
    exact ⟨Nat.le_refl _, by rw [taken, List.take_length]; rfl⟩
  · cases written
    exact ⟨Nat.min_le_right n _, by rw [taken, ← List.take_eq_take_min]; rfl⟩
  · cases written
    exact ⟨Nat.zero_le _, by rw [taken, List.take_zero, List.append_nil]; rfl⟩

/-- Whatever the far side takes of each write, it has got the front of the bytes in the end, none of them
twice, and the rest is left. -/
theorem InTurn.sends (h : InTurn bytes w outcomes left last) : ∃ front, bytes = front ++ left ∧
    front.length = (outcomes.map taken).sum ∧
    last = { w with acceptances := w.acceptances.drop outcomes.length, sent := w.sent ++ front } := by
  induction h with
  | none bytes w => exact ⟨[], rfl, rfl, by rw [List.append_nil]; rfl⟩
  | @more bytes _ _ _ _ outcome _ written _ ih =>
    obtain ⟨enough, rfl⟩ := write_uses written
    obtain ⟨front, split, length, rfl⟩ := ih
    refine ⟨bytes.take (taken outcome) ++ front, ?_, ?_, ?_⟩
    · rw [List.append_assoc, ← split, List.take_append_drop]
    · rw [List.length_append, List.length_take_of_le enough, length, List.map_cons, List.sum_cons]
    · rw [List.drop_drop, List.append_assoc, List.length_cons, Nat.add_comm]

theorem Ended.cons {result : Except ChannelError Unit} (first : obstacle? outcome = none)
    (h : Ended outcomes left result) : Ended (outcome :: outcomes) left result := by
  cases h with
  | all free => exact .all (List.forall_mem_cons.mpr ⟨first, free⟩)
  | stopped free stop some => exact .stopped (List.forall_mem_cons.mpr ⟨first, free⟩) stop some

/-- Writing all bytes is a run of writes in turn that is over at its end. Each of them but the last takes a
byte at least, so there are no more writes than bytes. -/
theorem writeAll_inTurn (bytes : List UInt8) (w : Wire) : ∃ outcomes left,
    InTurn bytes w outcomes left (w.writeAll bytes).2 ∧ Ended outcomes left (w.writeAll bytes).1 ∧
    outcomes.length ≤ bytes.length := by
  fun_induction writeAll bytes w with
  | case1 w => exact ⟨[], [], .none [] w, .all (List.forall_mem_nil _), Nat.le_refl 0⟩
  | case2 w byte rest e after failed =>
    refine ⟨[.error e], byte :: rest, .more failed (.none _ _), ?_, by simp⟩
    exact .stopped (List.forall_mem_nil _) rfl (List.cons_ne_nil byte rest)
  | case3 w byte rest after stuck =>
    refine ⟨[.ok 0], byte :: rest, .more stuck (.none _ _), ?_, by simp⟩
    exact .stopped (List.forall_mem_nil _) rfl (List.cons_ne_nil byte rest)
  | case4 w byte rest n after written ih =>
    obtain ⟨outcomes, left, turns, ended, few⟩ := ih
    refine ⟨.ok (n + 1) :: outcomes, left, .more written turns, ended.cons rfl, ?_⟩
    rw [List.length_drop] at few
    rw [List.length_cons, List.length_cons]
    omega

section Line

variable {line : String}

/-- A line ends as its writes do, unless all of it is taken. Then it ends as the flush does. -/
theorem writeLine_cases (line : String) (w : Wire) : ∃ next,
    (∃ e, w.writeAll (Line.bytes line) = (.error e, next) ∧ w.writeLine line = (.error (.channel e), next)) ∨
    w.writeAll (Line.bytes line) = (.ok (), next) ∧
      ((∃ reached last, next.flush = (.ok reached, last) ∧ w.writeLine line = (.ok (), last)) ∨
        ∃ e last, next.flush = (.error e, last) ∧ w.writeLine line = (.error (.channel e), last)) := by
  rw [writeLine]
  rcases w.writeAll (Line.bytes line) with ⟨e | _, next⟩
  · exact ⟨next, Or.inl ⟨e, rfl, rfl⟩⟩
  · refine ⟨next, Or.inr ⟨rfl, ?_⟩⟩
    rcases flushed : next.flush with ⟨e | reached, last⟩
    · exact Or.inr ⟨e, last, rfl, by simp only [flushed]⟩
    · exact Or.inl ⟨reached, last, rfl, by simp only [flushed]⟩

/-- Nothing but how flushes end is used up behind the last write of a line. -/
theorem writeLine_keeps (line : String) (w : Wire) :
    ∃ flushes, (w.writeLine line).2 = { (w.writeAll (Line.bytes line)).2 with flushes := flushes } := by
  obtain ⟨next, ⟨_, tried, ended⟩ | ⟨tried, ⟨_, last, flushed, ended⟩ | ⟨_, last, flushed, ended⟩⟩⟩ :=
    writeLine_cases line w
  · rw [ended, tried]
    exact ⟨next.flushes, rfl⟩
  all_goals
    rw [ended, tried, flush_uses flushed]
    exact ⟨_, rfl⟩

theorem writeLine_eq_error {e : AdmissionError} (failed : w.writeLine line = (.error e, last)) :
    ∃ cause, e = .channel cause := by
  obtain ⟨_, ⟨cause, -, ended⟩ | ⟨-, ⟨_, _, -, ended⟩ | ⟨cause, _, -, ended⟩⟩⟩ := writeLine_cases line w
  all_goals cases ended.symm.trans failed
  · exact ⟨cause, rfl⟩
  · exact ⟨cause, rfl⟩

/-- A line that has been written has reached the far side whole, and what that side sends is still to
come. -/
theorem writeLine_sends (sent : w.writeLine line = (.ok (), last)) :
    last.sent = w.sent ++ Line.bytes line ∧ last.arrivals = w.arrivals := by
  obtain ⟨outcomes, left, turns, ended, -⟩ := writeAll_inTurn (Line.bytes line) w
  obtain ⟨front, split, -, same⟩ := turns.sends
  obtain ⟨flushes, kept⟩ := writeLine_keeps line w
  rw [sent, same] at kept
  obtain rfl : last = _ := kept
  obtain ⟨_, ⟨_, -, failed⟩ | ⟨tried, -⟩⟩ := writeLine_cases line w
  · cases failed.symm.trans sent
  · rw [tried] at ended
    cases ended with
    | all => exact ⟨by rw [split, List.append_nil], rfl⟩

/-- A willing far side gets the line. -/
theorem Willing.writeLine (willing : w.Willing) (line : String) : ∃ last, w.writeLine line = (.ok (), last) := by
  obtain ⟨next, written, still⟩ := willing.writeAll (Line.bytes line)
  obtain ⟨reached, last, flushed⟩ := still.flush
  obtain ⟨_, ⟨_, tried, -⟩ | ⟨tried, ⟨_, last, -, ended⟩ | ⟨_, _, failed, -⟩⟩⟩ := writeLine_cases line w
  · cases written.symm.trans tried
  · exact ⟨last, ended⟩
  · cases written.symm.trans tried
    cases flushed.symm.trans failed

end Line

/-- Whatever becomes of the successive writes of a line, the far side gets the front of the line with its
newline behind it, each byte once and in order. There are no more writes than bytes. If no write stands in
the way, all is taken and then flushed, and the line succeeds if the flush does and fails with what the
flush fails with. Otherwise the last write stands in the way, as it takes nothing or fails; some bytes are
left, nothing is flushed, and the line fails with that. -/
theorem partial_writes_lose_nothing (line : String) (w : Wire) : ∃ outcomes front left written,
    InTurn (Line.bytes line) w outcomes left written ∧ written.flushes = w.flushes ∧
    Utf8.encode line ++ [Line.newline] = front ++ left ∧
    (w.writeLine line).2.sent = w.sent ++ front ∧ front.length = (outcomes.map taken).sum ∧
    (w.writeLine line).2.acceptances = w.acceptances.drop outcomes.length ∧
    outcomes.length ≤ (Line.bytes line).length ∧
    ((∀ o ∈ outcomes, obstacle? o = none) ∧ left = [] ∧
        ((∃ reached last, written.flush = (.ok reached, last) ∧ w.writeLine line = (.ok (), last)) ∨
          ∃ e last, written.flush = (.error e, last) ∧ w.writeLine line = (.error (.channel e), last)) ∨
      ∃ before last e, outcomes = before ++ [last] ∧ (∀ o ∈ before, obstacle? o = none) ∧
        obstacle? last = some e ∧ left ≠ [] ∧ w.writeLine line = (.error (.channel e), written)) := by
  obtain ⟨outcomes, left, turns, ended, few⟩ := writeAll_inTurn (Line.bytes line) w
  obtain ⟨front, split, length, same⟩ := turns.sends
  obtain ⟨flushes, kept⟩ := writeLine_keeps line w
  rw [same] at kept
  refine ⟨outcomes, front, left, _, turns, by rw [same], split, by rw [kept], length, by rw [kept], few, ?_⟩
  obtain ⟨next, ⟨e, tried, stopped⟩ | ⟨tried, flushed⟩⟩ := writeLine_cases line w
  · rw [tried] at ended ⊢
    cases ended with
    | stopped free stop some => exact Or.inr ⟨_, _, e, rfl, free, stop, some, stopped⟩
  · rw [tried] at ended ⊢
    cases ended with
    | all free => exact Or.inl ⟨free, rfl, flushed⟩

/-- The far side takes one byte of three and then the other two, and the flush fails behind them. Had it
taken none of those two, the line would have been cut and nothing flushed. -/
example :
    ((Wire.mk [] [.upTo 1, .upTo 5, .upTo 0] [.fails .closed] []).writeLine "é").2 =
      ⟨[], [.upTo 0], [], [195, 169, 10]⟩ ∧
    ((Wire.mk [] [.upTo 1, .upTo 0] [.fails .closed] []).writeLine "é").2 =
      ⟨[], [], [.fails .closed], [195]⟩ := by
  decide +kernel

end Roster.Wire

import Roster.Proofs.Admission.Line

/-!
# Line after line

A reader is asked for one line after another. Lines that are within the limit are given out as they
are, however the stream is cut into reads, and then the reader says how the stream has ended. The limit
itself is looked at only when a read has ended and no newline has come. A line above the limit is
therefore refused exactly if a read ends in time to notice, that is, between the last byte that the
limit allows and the newline; a line that fits in between two ends of reads passes.
-/

namespace Roster

namespace Line

/-- What the end of a stream is told as, by what is left behind the last newline. -/
def ending (last : List UInt8) : Except AdmissionError (Option String) :=
  if last = [] then .ok none
  else if last.length < limit then .error (.protocol .endedMidLine)
  else .error .lineTooLong

/-- What the reader of a stream of lines should give when it is asked again after so many lines. -/
def reference (lines : List (List UInt8)) (last : List UInt8) (n : Nat) :
    Except AdmissionError (Option String) :=
  match lines[n]? with
  | some line => (text line).map some
  | none => ending last

/-- How many bytes stand in front of a line. -/
def start (lines : List (List UInt8)) (n : Nat) : Nat :=
  ((lines.take n).flatMap (· ++ [newline])).length

/-- A read ends when the limit of a line has been reached, and in front of what is behind the line. Some
bytes are held before the first read. -/
def Caught (held : Nat) (reads : List (List UInt8)) (start length : Nat) : Prop :=
  ∃ front, front <+: reads ∧ start + limit ≤ held + front.flatten.length ∧
    held + front.flatten.length ≤ start + length

@[simp] theorem start_zero (lines : List (List UInt8)) : start lines 0 = 0 := rfl

theorem start_cons (line : List UInt8) (lines : List (List UInt8)) (n : Nat) :
    start (line :: lines) (n + 1) = line.length + 1 + start lines n := by
  simp [start]
  omega

/-- A line lies in its stream, with its newline. -/
theorem start_add_length_le {bytes last line : List UInt8} {lines : List (List UInt8)} {n : Nat}
    (cut : pieces (· == newline) bytes = lines ++ [last]) (there : lines[n]? = some line) :
    start lines n + (line.length + 1) ≤ bytes.length := by
  induction lines generalizing bytes n with
  | nil => cases there
  | cons first lines ih =>
    obtain ⟨_, behind, rfl, -, later⟩ :=
      split_of_pieces cut (List.append_ne_nil_of_right_ne_nil lines (List.cons_ne_nil last []))
    rw [List.length_append, List.length_cons]
    cases n with
    | zero =>
      cases there
      rw [start_zero]
      omega
    | succ n =>
      have inside := ih later there
      rw [start_cons]
      omega

theorem not_caught_of_short {held start length : Nat} {reads : List (List UInt8)} (short : length < limit) :
    ¬ Caught held reads start length := by
  rintro ⟨front, -, reached, inside⟩
  omega

section

variable {held kept size : Nat} {used later : List (List UInt8)} (total : held + used.flatten.length = size + kept)
  (early : ∀ front, front <+: used → front = used ∨ held + front.flatten.length < limit)
include total early

/-- Let a reader have given a line out. Of the reads that this took, the early ones ended below the limit;
the last one, like the later ones, has ended behind the line. -/
theorem below_or_behind {front : List (List UInt8)} (begins : front <+: used ++ later) :
    held + front.flatten.length < limit ∨
      ∃ more, more <+: later ∧ held + front.flatten.length = size + (kept + more.flatten.length) := by
  rcases List.prefix_or_prefix_of_prefix begins (List.prefix_append used later) with short | ⟨more, rfl⟩
  · rcases early front short with rfl | below
    · exact Or.inr ⟨[], List.nil_prefix, total⟩
    · exact Or.inl below
  · refine Or.inr ⟨more, (List.prefix_append_right_inj used).mp begins, ?_⟩
    rw [List.flatten_append, List.length_append, ← Nat.add_assoc, total, Nat.add_assoc]

/-- The line itself was not caught. -/
theorem not_caught_of_given {length : Nat} (given : size = length + 1) : ¬ Caught held (used ++ later) 0 length := by
  rintro ⟨front, begins, reached, inside⟩
  rcases below_or_behind total early begins with below | ⟨more, -, behind⟩
  · omega
  · omega

/-- What is caught behind the line is caught by what the reader has become. -/
theorem caught_behind_iff {start length : Nat} :
    Caught held (used ++ later) (size + start) length ↔ Caught kept later start length := by
  constructor
  · rintro ⟨front, begins, reached, inside⟩
    rcases below_or_behind total early begins with below | ⟨more, begins, behind⟩
    · omega
    · exact ⟨more, begins, by omega, by omega⟩
  · rintro ⟨front, begins, reached, inside⟩
    have behind : held + (used ++ front).flatten.length = size + (kept + front.flatten.length) := by
      rw [List.flatten_append, List.length_append, ← Nat.add_assoc, total, Nat.add_assoc]
    exact ⟨used ++ front, (List.prefix_append_right_inj used).mpr begins, by omega, by omega⟩

end

theorem ending_of_long {last : List UInt8} (long : limit ≤ last.length) : ending last = .error .lineTooLong := by
  have some : last ≠ [] := by
    rintro rfl
    exact absurd long (by decide)
  rw [ending, if_neg some, if_neg (Nat.not_lt.mpr long)]

theorem ending_of_short {last : List UInt8} (short : last.length < limit) :
    ending last = if last = [] then .ok none else .error (.protocol .endedMidLine) := by
  rw [ending, if_pos short]

/-- Reads of a block each cannot pass over a block of bytes. -/
theorem exists_read_end {reads : List (List UInt8)} (small : ∀ read ∈ reads, read.length ≤ block) {position : Nat}
    (inside : position ≤ reads.flatten.length) :
    ∃ front, front <+: reads ∧ position ≤ front.flatten.length ∧ front.flatten.length < position + block := by
  have positive : 0 < block := by decide
  induction reads generalizing position with
  | nil =>
    refine ⟨[], List.nil_prefix, inside, ?_⟩
    rw [List.flatten_nil, List.length_nil] at inside ⊢
    omega
  | cons read rest ih =>
    obtain ⟨first, small⟩ := List.forall_mem_cons.mp small
    rw [List.flatten_cons, List.length_append] at inside
    by_cases here : position = 0
    · exact ⟨[], List.nil_prefix, here ▸ Nat.zero_le _, by simpa using Nat.lt_add_left position positive⟩
    by_cases within : position ≤ read.length
    · refine ⟨[read], (List.prefix_cons_inj read).mpr List.nil_prefix, ?_, ?_⟩
      all_goals
        rw [List.flatten_singleton]
        omega
    · obtain ⟨front, begins, reached, soon⟩ := @ih small (position - read.length) (by omega)
      refine ⟨read :: front, (List.prefix_cons_inj read).mpr begins, ?_, ?_⟩
      all_goals
        rw [List.flatten_cons, List.length_append]
        omega

end Line

namespace LineBuffer

variable {b same : LineBuffer} {w : Wire} {reads : List (List UInt8)}

/-- What the reader gives when it is asked again after so many times. -/
def call (b : LineBuffer) (w : Wire) : Nat → Except AdmissionError (Option String)
  | 0 => (b.readLine w).1
  | n + 1 => (b.readLine w).2.1.call (b.readLine w).2.2 n

theorem call_zero {result : Except AdmissionError (Option String)} {after : Wire}
    (read : b.readLine w = (result, same, after)) : b.call w 0 = result := by
  rw [call, read]

theorem call_succ {result : Except AdmissionError (Option String)} {after : Wire}
    (read : b.readLine w = (result, same, after)) (n : Nat) : b.call w (n + 1) = same.call after n := by
  rw [call, read]

theorem isEmpty_iff : b.isEmpty = true ↔ b.toList = [] := by
  simp [isEmpty, toList]

/-- So much of a line has been read that no more of it will be. -/
structure Stuck (b : LineBuffer) : Prop where
  free : Line.newline ∉ b.toList
  long : Line.limit ≤ b.toList.length

theorem stuck_of_tooLong (found : b.step = .tooLong same) : same.Stuck := by
  obtain ⟨free, long⟩ := step_tooLong found
  rw [← toList_of_tooLong found] at free long
  exact ⟨free, long⟩

theorem readLine_of_tooLong (found : b.step = .tooLong same) (w : Wire) :
    b.readLine w = (.error .lineTooLong, same, w) := by
  rw [readLine, found]

theorem Stuck.step (stuck : b.Stuck) : ∃ same, b.step = .tooLong same := by
  cases found : b.step with
  | line bytes rest =>
    obtain ⟨split, -⟩ := step_line found
    exact absurd (split ▸ List.mem_append_right bytes List.mem_cons_self) stuck.free
  | starved same => exact absurd stuck.long (Nat.not_le.mpr (step_starved found).2.2)
  | tooLong same => exact ⟨same, rfl⟩

/-- A reader that is stuck stays so. -/
theorem Stuck.call (stuck : b.Stuck) (w : Wire) (n : Nat) : b.call w n = .error .lineTooLong := by
  induction n generalizing b w with
  | zero =>
    obtain ⟨same, found⟩ := stuck.step
    exact call_zero (readLine_of_tooLong found w)
  | succ n ih =>
    obtain ⟨same, found⟩ := stuck.step
    rw [call_succ (readLine_of_tooLong found w)]
    exact ih (stuck_of_tooLong found) w

/-- The last bytes of a stream, with no newline behind them, are told as its end. The reader is then
stuck, or it has all of them. -/
theorem readLine_left (delivers : w.Delivers Line.block reads) (free : Line.newline ∉ b.toList ++ reads.flatten) :
    ∃ same after, b.readLine w = (Line.ending (b.toList ++ reads.flatten), same, after) ∧
      (same.Stuck ∧ Line.limit ≤ (b.toList ++ reads.flatten).length ∨
        after.Delivers Line.block [] ∧ same.toList = b.toList ++ reads.flatten) := by
  fun_induction readLine b w generalizing reads with
  | case1 b w bytes rest found =>
    obtain ⟨split, -⟩ := step_line found
    refine absurd ?_ free
    rw [split]
    simp
  | case2 b w same found =>
    have long : Line.limit ≤ (b.toList ++ reads.flatten).length := by
      rw [List.length_append]
      exact Nat.le_trans (step_tooLong found).2 (Nat.le_add_right _ _)
    rw [Line.ending_of_long long]
    exact ⟨same, w, rfl, Or.inl ⟨stuck_of_tooLong found, long⟩⟩
  | case3 b w same found e after failed => exact absurd failed delivers.not_failed
  | case4 b w same found after ended =>
    obtain ⟨rfl, rfl⟩ := delivers.ended ended
    obtain ⟨toList, -, short⟩ := step_starved found
    rw [List.flatten_nil, List.append_nil, Line.ending_of_short short, ← toList]
    refine ⟨same, after, ?_, Or.inr ⟨delivers, rfl⟩⟩
    simp only [isEmpty_iff]
  | case5 b w same found byte bs after got ih =>
    obtain ⟨toList, -, -⟩ := step_starved found
    obtain ⟨later, rfl, follows⟩ := delivers.got got
    have whole : (same.feed (byte :: bs)).toList ++ later.flatten =
        b.toList ++ ((byte :: bs) :: later).flatten := by
      rw [toList_feed, toList, List.append_assoc, List.flatten_cons]
    have told := ih follows (whole ▸ free)
    rwa [whole] at told

/-- Once all lines have been given out, the reader tells the end of the stream as often as it is
asked. -/
theorem call_left (delivers : w.Delivers Line.block reads) (free : Line.newline ∉ b.toList ++ reads.flatten)
    (n : Nat) : b.call w n = Line.ending (b.toList ++ reads.flatten) := by
  induction n generalizing b w reads with
  | zero =>
    obtain ⟨same, after, read, -⟩ := readLine_left delivers free
    exact call_zero read
  | succ n ih =>
    obtain ⟨same, after, read, ⟨stuck, long⟩ | ⟨ended, all⟩⟩ := readLine_left delivers free
    · rw [call_succ read, stuck.call, Line.ending_of_long long]
    · have still : same.toList ++ ([] : List (List UInt8)).flatten = b.toList ++ reads.flatten := by
        rw [all, List.flatten_nil, List.append_nil]
      rw [call_succ read, ih ended (still ▸ free), still]

/-- A line is given out, unless it is caught. The reads that this takes end below the limit, all but the
last of them. -/
theorem readLine_line {line behind : List UInt8} (delivers : w.Delivers Line.block reads)
    (whole : b.toList ++ reads.flatten = line ++ Line.newline :: behind) (free : Line.newline ∉ line) :
    (∃ same after, b.readLine w = (.error .lineTooLong, same, after) ∧ same.Stuck ∧
      Line.Caught b.toList.length reads 0 line.length) ∨
    ∃ kept after used later, b.readLine w = ((Line.text line).map some, kept, after) ∧
      after.Delivers Line.block later ∧ reads = used ++ later ∧ kept.toList ++ later.flatten = behind ∧
      ∀ front, front <+: used → front = used ∨ b.toList.length + front.flatten.length < Line.limit := by
  fun_induction readLine b w generalizing reads with
  | case1 b w bytes rest found =>
    obtain ⟨split, free'⟩ := step_line found
    rw [split, List.append_assoc, List.cons_append] at whole
    obtain ⟨rfl, rfl⟩ := line_unique free' free whole
    refine Or.inr ⟨rest, w, [], reads, rfl, delivers, rfl, rfl, fun front begins => Or.inl ?_⟩
    exact List.prefix_nil.mp begins
  | case2 b w same found =>
    obtain ⟨free', long⟩ := step_tooLong found
    obtain ⟨more, rfl, -⟩ := begins_line free' whole
    refine Or.inl ⟨same, w, rfl, stuck_of_tooLong found, [], List.nil_prefix, ?_, ?_⟩
    · simpa using long
    · simp
  | case3 b w same found e after failed => exact absurd failed delivers.not_failed
  | case4 b w same found after ended =>
    -- the end of the stream is behind the line
    obtain ⟨-, free', -⟩ := step_starved found
    obtain ⟨more, -, rest⟩ := begins_line free' whole
    obtain ⟨rfl, -⟩ := delivers.ended ended
    simp at rest
  | case5 b w same found byte bs after got ih =>
    obtain ⟨toList, -, short⟩ := step_starved found
    obtain ⟨later, rfl, follows⟩ := delivers.got got
    have fed : (same.feed (byte :: bs)).toList = b.toList ++ byte :: bs := by rw [toList_feed, toList]
    have held : ∀ front : List (List UInt8), (same.feed (byte :: bs)).toList.length + front.flatten.length =
        b.toList.length + ((byte :: bs) :: front).flatten.length := by
      intro front
      rw [fed, List.length_append, List.flatten_cons, List.length_append, Nat.add_assoc]
    have going : (same.feed (byte :: bs)).toList ++ later.flatten = line ++ Line.newline :: behind := by
      rw [fed, ← whole, List.flatten_cons, List.append_assoc]
    rcases ih follows going with
      ⟨stop, last, read, stuck, front, begins, reached, inside⟩ | ⟨kept, last, used, rest, read, left, rfl, tail, early⟩
    · refine Or.inl ⟨stop, last, read, stuck, (byte :: bs) :: front,
        (List.prefix_cons_inj _).mpr begins, ?_, ?_⟩
      all_goals
        rw [← held]
        assumption
    · refine Or.inr ⟨kept, last, (byte :: bs) :: used, rest, read, left, rfl, tail, fun front begins => ?_⟩
      rcases List.prefix_cons_iff.mp begins with rfl | ⟨others, rfl, within⟩
      · exact Or.inr (by simpa using short)
      · exact (early others within).imp (congrArg _) fun below => held others ▸ below

/-- The reader is stuck from the first line on that is caught. Before that it gives out the lines in
turn and then tells the end. -/
theorem call_cases {lines : List (List UInt8)} {last : List UInt8} (delivers : w.Delivers Line.block reads)
    (cut : pieces (· == Line.newline) (b.toList ++ reads.flatten) = lines ++ [last]) (n : Nat) :
    (∃ i ≤ n, ∃ piece, (lines ++ [last])[i]? = some piece ∧
        Line.Caught b.toList.length reads (Line.start lines i) piece.length) ∧
      b.call w n = .error .lineTooLong ∨
    (∀ i ≤ n, ∀ piece, (lines ++ [last])[i]? = some piece →
        ¬ Line.Caught b.toList.length reads (Line.start lines i) piece.length) ∧
      b.call w n = Line.reference lines last n := by
  induction lines generalizing b w reads n with
  | nil =>
    obtain rfl := eq_of_pieces cut
    have only : b.toList ++ reads.flatten ∈ pieces (· == Line.newline) (b.toList ++ reads.flatten) := by
      rw [cut]
      exact List.mem_singleton_self _
    have free := separates_iff.mpr (free_of_mem_pieces only)
    have told : b.call w n = Line.ending (b.toList ++ reads.flatten) := call_left delivers free n
    have size : (b.toList ++ reads.flatten).length = b.toList.length + reads.flatten.length :=
      List.length_append
    by_cases long : Line.limit ≤ (b.toList ++ reads.flatten).length
    · refine Or.inl ⟨⟨0, Nat.zero_le n, _, rfl, reads, List.prefix_refl reads, ?_, ?_⟩, ?_⟩
      · rw [Line.start_zero]
        omega
      · rw [Line.start_zero]
        omega
      · rw [told, Line.ending_of_long long]
    · refine Or.inr ⟨fun i _ piece here => ?_, told⟩
      obtain rfl := List.mem_singleton.mp (List.mem_of_getElem? here)
      exact Line.not_caught_of_short (Nat.lt_of_not_le long)
  | cons line lines ih =>
    obtain ⟨newline, behind, whole, ends, later⟩ :=
      split_of_pieces cut (List.append_ne_nil_of_right_ne_nil lines (List.cons_ne_nil last []))
    obtain rfl : newline = Line.newline := beq_iff_eq.mp ends
    have first : line ∈ pieces (· == Line.newline) (b.toList ++ reads.flatten) := by
      rw [cut]
      exact List.mem_cons_self
    have free := separates_iff.mpr (free_of_mem_pieces first)
    rcases readLine_line delivers whole free with
      ⟨same, after, read, stuck, caught⟩ | ⟨kept, after, used, rest, read, going, rfl, tail, early⟩
    · refine Or.inl ⟨⟨0, Nat.zero_le n, line, rfl, caught⟩, ?_⟩
      cases n with
      | zero => exact call_zero read
      | succ n => rw [call_succ read, stuck.call]
    · have total : b.toList.length + used.flatten.length = line.length + 1 + kept.toList.length := by
        have size := congrArg List.length whole
        simp only [← tail, List.flatten_append, List.length_append, List.length_cons] at size
        omega
      have passed : ¬ Line.Caught b.toList.length (used ++ rest) 0 line.length :=
        Line.not_caught_of_given total early rfl
      have moved : ∀ i length, Line.Caught b.toList.length (used ++ rest) (Line.start (line :: lines) (i + 1))
          length ↔ Line.Caught kept.toList.length rest (Line.start lines i) length := by
        intro i length
        rw [Line.start_cons]
        exact Line.caught_behind_iff total early
      cases n with
      | zero =>
        refine Or.inr ⟨fun i least piece here => ?_, call_zero read⟩
        obtain rfl := Nat.le_zero.mp least
        cases here
        exact passed
      | succ n =>
        rcases ih going (tail.symm ▸ later) n with ⟨⟨i, le, piece, here, caught⟩, told⟩ | ⟨none, told⟩
        · exact Or.inl ⟨⟨i + 1, Nat.succ_le_succ le, piece, here, (moved i _).mpr caught⟩,
            (call_succ read n).trans told⟩
        · refine Or.inr ⟨fun i le piece here => ?_, (call_succ read n).trans told⟩
          cases i with
          | zero =>
            cases here
            exact passed
          | succ i => exact fun caught => none i (Nat.le_of_succ_le_succ le) piece here ((moved i _).mp caught)

/-- The first line of a stream that has no other. -/
theorem call_first {s : String} (plain : Line.Plain s) (delivers : w.Delivers Line.block reads)
    (same : reads.flatten = Line.bytes s) :
    Line.Caught 0 reads 0 (Utf8.size s) ∧ empty.call w 0 = .error .lineTooLong ∨
      ¬ Line.Caught 0 reads 0 (Utf8.size s) ∧ empty.call w 0 = .ok (some s) := by
  have cut : pieces (· == Line.newline) (empty.toList ++ reads.flatten) = [Utf8.encode s] ++ [[]] := by
    rw [same, Line.bytes]
    exact pieces_append_cons (separates_iff.mp (Line.newline_free_of_plain plain)) (beq_self_eq_true _) []
  rw [← Utf8.length_encode]
  rcases call_cases (b := empty) delivers cut 0 with ⟨⟨i, le, piece, here, caught⟩, told⟩ | ⟨none, told⟩
  · obtain rfl := Nat.le_zero.mp le
    cases here
    exact Or.inl ⟨caught, told⟩
  · refine Or.inr ⟨none 0 (Nat.le_refl 0) _ rfl, told.trans ?_⟩
    exact congrArg (Except.map some) (Line.text_plain plain)

/-- Let every line of a stream be within the limit, its newline counted. However the stream is cut, and
however often the reader is asked, it gives the lines in turn, each as text without its ending or as
one that is no text, and then the end of the stream: nothing, or an unfinished line, or one that is too
long. -/
theorem framing_ignores_cuts {chunks : List (List UInt8)} (gives : w.Gives chunks) {lines : List (List UInt8)}
    {last : List UInt8} (cut : pieces (· == Line.newline) chunks.flatten = lines ++ [last])
    (within : ∀ line ∈ lines, line.length + 1 ≤ Line.limit) (n : Nat) :
    empty.call w n = Line.reference lines last n := by
  obtain ⟨reads, delivers, same⟩ := gives.exists_delivers (show 0 < Line.block by decide)
  have whole : pieces (· == Line.newline) (empty.toList ++ reads.flatten) = lines ++ [last] := by
    rw [same]
    exact cut
  rcases call_cases delivers whole n with ⟨⟨i, le, piece, here, front, -, reached, inside⟩, told⟩ | ⟨-, told⟩
  · -- only what is left behind the last newline can be that long
    have long : Line.limit ≤ piece.length := by omega
    rw [List.getElem?_append] at here
    split at here
    · exact absurd (within piece (List.mem_of_getElem? here)) (by omega)
    · obtain rfl := List.mem_singleton.mp (List.mem_of_getElem? here)
      have beyond : lines[n]? = none := List.getElem?_eq_none (by omega)
      rw [told, Line.reference, beyond, Line.ending_of_long long]
  · exact told

/-- A stream in which a line ends with a carriage return, one is no text and one has no end; the line
endings are cut apart. -/
def cutChunks : List (List UInt8) := [[97, 13], [10, 255], [10, 98], [99]]

/-- The lines of that stream, without their newlines. -/
def cutLines : List (List UInt8) := [[97, 13], [255]]

theorem framing_of_cut_chunks :
    (Wire.ofArrivals (cutChunks.map .bytes)).Gives cutChunks ∧
      pieces (· == Line.newline) cutChunks.flatten = cutLines ++ [[98, 99]] ∧
      (∀ line ∈ cutLines, line.length + 1 ≤ Line.limit) ∧
      empty.call (.ofArrivals (cutChunks.map .bytes)) 0 = .ok (some "a") ∧
      empty.call (.ofArrivals (cutChunks.map .bytes)) 1 = .error (.protocol .notUtf8) ∧
      ∀ n, empty.call (.ofArrivals (cutChunks.map .bytes)) (n + 2) = .error (.protocol .endedMidLine) := by
  have gives : (Wire.ofArrivals (cutChunks.map .bytes)).Gives cutChunks := ⟨rfl, by decide⟩
  have cut : pieces (· == Line.newline) cutChunks.flatten = cutLines ++ [[98, 99]] := by decide
  have within : ∀ line ∈ cutLines, line.length + 1 ≤ Line.limit := by decide
  have told := framing_ignores_cuts gives cut within
  exact ⟨gives, cut, within, (told 0).trans (by decide +kernel), (told 1).trans (by decide +kernel),
    fun n => (told (n + 2)).trans rfl⟩

/-- Let a reader get its bytes in reads of at most a block, cut in any way, and have been stuck at none of
the lines before this one. The line is refused if a read ends between the last byte that the limit
allows and the newline, and given out if none does. So a line within the limit is always given out, and
one that is above it by a block is always refused; of the others it depends on the cut. -/
theorem line_refused_iff_caught (gives : w.Gives reads) (small : ∀ read ∈ reads, read.length ≤ Line.block)
    {lines : List (List UInt8)} {last line : List UInt8} {n : Nat}
    (cut : pieces (· == Line.newline) reads.flatten = lines ++ [last]) (there : lines[n]? = some line)
    (reached : ∀ m < n, empty.call w m ≠ .error .lineTooLong) :
    let caught := ∃ front, front <+: reads ∧ Line.start lines n + Line.limit ≤ front.flatten.length ∧
      front.flatten.length ≤ Line.start lines n + line.length
    (caught → empty.call w n = .error .lineTooLong) ∧
      (¬ caught → empty.call w n = (Line.text line).map some) ∧
      (line.length + 1 ≤ Line.limit → ¬ caught) ∧
      (Line.limit + Line.block ≤ line.length + 1 → caught) := by
  intro caught
  have same : caught ↔ Line.Caught 0 reads (Line.start lines n) line.length := by
    simp only [caught, Line.Caught, Nat.zero_add]
  rw [same]
  have delivers := gives.delivers small
  have here : (lines ++ [last])[n]? = some line :=
    (List.getElem?_append_left (List.getElem?_eq_some_iff.mp there).1).trans there
  refine ⟨fun stops => ?_, fun passes => ?_, fun short => ?_, fun long => ?_⟩
  · rcases call_cases (b := empty) delivers cut n with ⟨-, told⟩ | ⟨none, -⟩
    · exact told
    · exact absurd stops (none n (Nat.le_refl n) line here)
  · rcases call_cases (b := empty) delivers cut n with ⟨⟨i, le, piece, earlier, stops⟩, -⟩ | ⟨-, told⟩
    · rcases Nat.lt_or_eq_of_le le with before | rfl
      · -- an earlier line would have been refused
        rcases call_cases (b := empty) delivers cut i with ⟨-, told⟩ | ⟨none, -⟩
        · exact absurd told (reached i before)
        · exact absurd stops (none i (Nat.le_refl i) piece earlier)
      · cases here.symm.trans earlier
        exact absurd stops passes
    · rw [told, Line.reference, there]
  · exact Line.not_caught_of_short short
  · have inside : Line.start lines n + Line.limit ≤ reads.flatten.length := by
      have behind := Line.start_add_length_le cut there
      omega
    obtain ⟨front, begins, stop, soon⟩ := Line.exists_read_end small inside
    exact ⟨front, begins, by omega, by omega⟩

/-- The second of two short lines. -/
def shortReads : List (List UInt8) := [[97, 98], [99, 10, 100], [10]]

theorem short_line_is_given :
    (Wire.ofArrivals (shortReads.map .bytes)).Gives shortReads ∧
      (∀ read ∈ shortReads, read.length ≤ Line.block) ∧
      pieces (· == Line.newline) shortReads.flatten = [[97, 98, 99], [100]] ++ [[]] ∧
      (∀ m < 1, empty.call (.ofArrivals (shortReads.map .bytes)) m ≠ .error .lineTooLong) ∧
      empty.call (.ofArrivals (shortReads.map .bytes)) 1 = .ok (some "d") := by
  have gives : (Wire.ofArrivals (shortReads.map .bytes)).Gives shortReads := ⟨rfl, by decide⟩
  have small : ∀ read ∈ shortReads, read.length ≤ Line.block := by decide
  have cut : pieces (· == Line.newline) shortReads.flatten = [[97, 98, 99], [100]] ++ [[]] := by decide
  have reached : ∀ m < 1, empty.call (.ofArrivals (shortReads.map .bytes)) m ≠ .error .lineTooLong := by
    intro m first told
    obtain rfl := Nat.lt_one_iff.mp first
    rcases call_cases (b := empty) (gives.delivers small) cut 0 with ⟨⟨i, le, piece, here, caught⟩, -⟩ | ⟨-, given⟩
    · obtain rfl := Nat.le_zero.mp le
      cases here
      exact Line.not_caught_of_short (by decide) caught
    · exact absurd (told.symm.trans given) (by decide +kernel)
  obtain ⟨-, given, fits, -⟩ := line_refused_iff_caught gives small cut rfl reached
  exact ⟨gives, small, cut, reached, (given (fits (by decide))).trans (by decide +kernel)⟩

/-- A line of as many bytes as the limit, so that its newline is one too many. -/
def longText : String := String.ofList (List.replicate Line.limit 'a')

/-- Full reads of that line. -/
def fullReads (n : Nat) : List (List UInt8) := List.replicate n (List.replicate Line.block 97)

/-- The last byte of the line comes with the newline. -/
def lateReads : List (List UInt8) := fullReads 255 ++ [List.replicate 4095 97] ++ [[97, Line.newline]]

/-- The newline comes alone. -/
def promptReads : List (List UInt8) := fullReads 256 ++ [[Line.newline]]

theorem flatten_fullReads (n : Nat) : (fullReads n).flatten = List.replicate (n * Line.block) 97 :=
  List.flatten_replicate_replicate

theorem fullReads_full {n : Nat} {read : List UInt8} (mem : read ∈ fullReads n) :
    read ≠ [] ∧ read.length ≤ Line.block := by
  obtain rfl := List.eq_of_mem_replicate mem
  exact ⟨List.ne_nil_of_length_pos (List.length_replicate.symm ▸ by decide), Nat.le_of_eq List.length_replicate⟩

theorem encode_longText : Utf8.encode longText = List.replicate Line.limit 97 := by
  rw [longText, Utf8.encode_ofList, List.flatMap_replicate, Utf8.encodeChar_of_ascii (by decide),
    List.flatten_replicate_singleton]
  rfl

theorem plain_longText : Line.Plain longText := by
  intro c mem
  rw [longText, String.toList_ofList] at mem
  obtain rfl := List.eq_of_mem_replicate mem
  decide

theorem flatten_lateReads : lateReads.flatten = Line.bytes longText := by
  have all : 255 * Line.block + 4095 + 1 = Line.limit := rfl
  have last : [(97 : UInt8), Line.newline] = List.replicate 1 97 ++ [Line.newline] := rfl
  rw [Line.bytes, encode_longText, lateReads, List.flatten_append, List.flatten_append, flatten_fullReads,
    List.flatten_singleton, List.flatten_singleton, List.replicate_append_replicate, last,
    ← List.append_assoc, List.replicate_append_replicate, all]

theorem flatten_promptReads : promptReads.flatten = Line.bytes longText := by
  have all : 256 * Line.block = Line.limit := rfl
  rw [Line.bytes, encode_longText, promptReads, List.flatten_append, flatten_fullReads,
    List.flatten_singleton, all]

/-- A line with its newline above the limit is given out or refused as its bytes are cut. -/
theorem long_line_depends_on_cut :
    (Wire.ofArrivals (lateReads.map .bytes)).Gives lateReads ∧
      (Wire.ofArrivals (promptReads.map .bytes)).Gives promptReads ∧
      lateReads.flatten = Line.bytes longText ∧ promptReads.flatten = Line.bytes longText ∧
      (Line.bytes longText).length = Line.limit + 1 ∧
      empty.call (.ofArrivals (lateReads.map .bytes)) 0 = .ok (some longText) ∧
      empty.call (.ofArrivals (promptReads.map .bytes)) 0 = .error .lineTooLong := by
  have late : ∀ read ∈ lateReads, read ≠ [] ∧ read.length ≤ Line.block := by
    intro read mem
    rw [lateReads, List.mem_append, List.mem_append, List.mem_singleton, List.mem_singleton] at mem
    rcases mem with (mem | rfl) | rfl
    · exact fullReads_full mem
    · exact ⟨List.ne_nil_of_length_pos (List.length_replicate.symm ▸ by decide), List.length_replicate ▸ by decide⟩
    · exact ⟨List.cons_ne_nil _ _, by decide⟩
  have prompt : ∀ read ∈ promptReads, read ≠ [] ∧ read.length ≤ Line.block := by
    intro read mem
    rw [promptReads, List.mem_append, List.mem_singleton] at mem
    rcases mem with mem | rfl
    · exact fullReads_full mem
    · exact ⟨List.cons_ne_nil _ _, by decide⟩
  have lateGives : (Wire.ofArrivals (lateReads.map .bytes)).Gives lateReads :=
    ⟨rfl, fun read mem => (late read mem).1⟩
  have promptGives : (Wire.ofArrivals (promptReads.map .bytes)).Gives promptReads :=
    ⟨rfl, fun read mem => (prompt read mem).1⟩
  have size : Utf8.size longText = Line.limit := by
    rw [← Utf8.length_encode, encode_longText, List.length_replicate]
  refine ⟨lateGives, promptGives, flatten_lateReads, flatten_promptReads, ?_, ?_, ?_⟩
  · rw [Line.bytes, List.length_append, Utf8.length_encode, size, List.length_singleton]
  · rcases call_first plain_longText (lateGives.delivers fun read mem => (late read mem).2) flatten_lateReads with
      ⟨⟨front, begins, reached, inside⟩, -⟩ | ⟨-, given⟩
    · -- what stands in front of the last read is a byte too short, and all of it is a byte too long
      have most : (fullReads 255 ++ [List.replicate 4095 (97 : UInt8)]).flatten.length + 1 = Line.limit := by
        rw [List.flatten_append, flatten_fullReads, List.flatten_singleton, List.length_append,
          List.length_replicate, List.length_replicate]
        rfl
      rcases List.prefix_concat_iff.mp begins with rfl | within
      · rw [List.flatten_append, List.length_append] at inside
        simp only [List.flatten_singleton, List.length_cons, List.length_nil] at inside
        omega
      · obtain ⟨rest, whole⟩ := within
        rw [← whole, List.flatten_append, List.length_append] at most
        omega
    · exact given
  · rcases call_first plain_longText (promptGives.delivers fun read mem => (prompt read mem).2)
      flatten_promptReads with ⟨-, told⟩ | ⟨none, -⟩
    · exact told
    · have stop : (fullReads 256).flatten.length = Line.limit := by
        rw [flatten_fullReads, List.length_replicate]
        rfl
      exact absurd ⟨fullReads 256, List.prefix_append _ _, by omega, by omega⟩ none

end LineBuffer

end Roster

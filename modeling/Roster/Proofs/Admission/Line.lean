import Mathlib.Data.List.Basic
import Roster.Admission.Line
import Roster.Proofs.Channel.Wire
import Roster.Proofs.Text.Utf8
import Roster.Proofs.Text.Words

/-!
# Lines and how they arrive

However the bytes of a stream are cut, the lines that are read from it are the pieces between its
newlines, as long as none of them reaches the limit. A text that is sent as a line is heard up to
its first newline; that is all of it if there is none in it.
-/

namespace Roster

namespace LineBuffer

instance : DecidableEq LineBuffer := fun b b' =>
  decidable_of_iff (b.begun = b'.begun ∧ b.size = b'.size ∧ b.ahead = b'.ahead) (by cases b; cases b'; simp)

variable {b rest same : LineBuffer} {bytes : List UInt8}

theorem newline_free (bs : List UInt8) : Line.newline ∉ bs.takeWhile (· != Line.newline) := by
  intro mem
  have passes := List.all_eq_true.mp (List.all_takeWhile (p := (· != Line.newline)) (l := bs)) _ mem
  exact bne_iff_ne.mp passes rfl

theorem toList_searched (h : b.ahead.dropWhile (· != Line.newline) = []) :
    (b.searched h).toList = b.toList := by
  simp [searched, toList, List.reverseAux_eq]

theorem newline_free_of_searched (h : b.ahead.dropWhile (· != Line.newline) = []) :
    Line.newline ∉ b.toList := by
  rw [← toList_searched h]
  intro mem
  rw [toList, List.mem_append, List.mem_reverse] at mem
  exact mem.elim (b.searched h).unfinished List.not_mem_nil

theorem length_toList (b : LineBuffer) : b.toList.length = b.size + b.ahead.length := by
  rw [toList, List.length_append, List.length_reverse, b.size_eq]

/-- A line ends at the first newline of the bytes at hand. -/
theorem step_line (h : b.step = .line bytes rest) :
    b.toList = bytes ++ Line.newline :: rest.toList ∧ Line.newline ∉ bytes := by
  unfold step at h
  split at h
  · rename_i c more found
    cases h
    have stop := List.head?_dropWhile_not (· != Line.newline) b.ahead
    have split := List.takeWhile_append_dropWhile (p := (· != Line.newline)) (l := b.ahead)
    rw [found] at stop split
    obtain rfl : c = Line.newline := by simpa using stop
    refine ⟨?_, ?_⟩
    · simp [toList, List.reverseAux_eq, split]
    · rw [List.reverseAux_eq, List.reverse_append, List.reverse_reverse, List.mem_append, List.mem_reverse]
      exact fun mem => mem.elim b.unfinished (newline_free b.ahead)
  · split at h <;> cases h

theorem step_tooLong (h : b.step = .tooLong same) :
    Line.newline ∉ b.toList ∧ Line.limit ≤ b.toList.length := by
  unfold step at h
  split at h
  · cases h
  · rename_i searched
    split at h
    · rw [length_toList]
      exact ⟨newline_free_of_searched searched, ‹_›⟩
    · cases h

theorem toList_of_tooLong (h : b.step = .tooLong same) : same.toList = b.toList := by
  unfold step at h
  split at h
  · cases h
  · rename_i searched
    split at h
    · cases h
      exact toList_searched searched
    · cases h

theorem step_starved (h : b.step = .starved same) :
    same.toList = b.toList ∧ Line.newline ∉ b.toList ∧ b.toList.length < Line.limit := by
  unfold step at h
  split at h
  · cases h
  · rename_i searched
    split at h
    · cases h
    · cases h
      rw [length_toList]
      exact ⟨toList_searched searched, newline_free_of_searched searched, Nat.lt_of_not_le ‹_›⟩

theorem toList_feed (b : LineBuffer) (bs : List UInt8) : (b.feed bs).toList = b.toList ++ bs := by
  simp [feed, toList]

theorem separates_iff {bs : List UInt8} :
    Line.newline ∉ bs ↔ ∀ x ∈ bs, (x == Line.newline) = false := by
  constructor
  · intro free x mem
    refine beq_eq_false_iff_ne.mpr ?_
    rintro rfl
    exact free mem
  · intro all mem
    exact beq_eq_false_iff_ne.mp (all _ mem) rfl

/-- The lines of the bytes in hand are the pieces in front of newlines, and the piece behind the last
newline is kept, unless one of the pieces is too long: then nothing is read beyond those before it. -/
theorem receiveOnto_cases {done : List (Except AdmissionError String)} {input last : List UInt8}
    {lines : List (List UInt8)} (cut : pieces (· == Line.newline) (b.toList ++ input) = lines ++ [last]) :
    (∃ kept, receiveOnto done b input = (done.reverse ++ lines.map Line.text, kept) ∧ kept.toList = last) ∨
      (∃ piece ∈ lines ++ [last], Line.limit ≤ piece.length) ∧ ∃ front kept, front <+: lines ∧
        receiveOnto done b input =
          (done.reverse ++ (front.map Line.text ++ [.error .lineTooLong]), kept) := by
  fun_induction receiveOnto done b input generalizing lines with
  | case1 done b input bytes rest found ih =>
    obtain ⟨split, free⟩ := step_line found
    rw [split, List.append_assoc, List.cons_append,
      pieces_append_cons (separates_iff.mp free) (beq_self_eq_true _)] at cut
    cases lines with
    | nil => exact absurd (List.cons.inj cut).2 (pieces_ne_nil _ _)
    | cons line lines =>
      obtain ⟨rfl, behind⟩ := List.cons.inj cut
      rcases ih behind with ⟨kept, read, left⟩ | ⟨⟨piece, mem, long⟩, front, kept, ahead, read⟩
      · refine Or.inl ⟨kept, ?_, left⟩
        rw [read, List.reverse_cons, List.append_assoc]
        rfl
      · refine Or.inr ⟨⟨piece, List.mem_cons_of_mem bytes mem, long⟩, bytes :: front, kept,
          (List.prefix_cons_inj bytes).mpr ahead, ?_⟩
        rw [read, List.reverse_cons, List.append_assoc]
        rfl
  | case2 done b input same found =>
    -- the bytes searched are the front of the first piece
    obtain ⟨free, long⟩ := step_tooLong found
    obtain ⟨piece, mem, le⟩ := le_length_piece (separates_iff.mp free) input
    exact Or.inr ⟨⟨piece, cut ▸ mem, Nat.le_trans long le⟩, [], same, List.nil_prefix, by simp⟩
  | case3 done b same found =>
    obtain ⟨toList, free, -⟩ := step_starved found
    rw [List.append_nil, pieces_of_free (separates_iff.mp free)] at cut
    obtain ⟨rfl, rfl⟩ : lines = [] ∧ b.toList = last := by
      cases lines with
      | nil => exact ⟨rfl, (List.cons.inj cut).1⟩
      | cons line lines => simp at cut
    exact Or.inl ⟨same, by simp, toList⟩
  | case4 done b same found byte more ih =>
    obtain ⟨toList, -, -⟩ := step_starved found
    refine ih ?_
    rw [toList_feed, toList, List.append_assoc, List.cons_append, List.take_append_drop]
    exact cut

theorem receiveOnto_eq {done : List (Except AdmissionError String)} {input last : List UInt8}
    {lines : List (List UInt8)}
    (cut : pieces (· == Line.newline) (b.toList ++ input) = lines ++ [last])
    (short : ∀ piece ∈ lines ++ [last], piece.length < Line.limit) :
    ∃ kept, receiveOnto done b input = (done.reverse ++ lines.map Line.text, kept) ∧
      kept.toList = last := by
  rcases receiveOnto_cases cut with whole | ⟨⟨piece, mem, long⟩, -⟩
  · exact whole
  · exact absurd (short piece mem) (Nat.not_lt.mpr long)

/-- Bytes that do not complete a line are kept. -/
theorem receive_unfinished {input : List UInt8} (free : Line.newline ∉ b.toList ++ input)
    (short : (b.toList ++ input).length < Line.limit) :
    ∃ kept, b.receive input = ([], kept) ∧ kept.toList = b.toList ++ input := by
  have cut : pieces (· == Line.newline) (b.toList ++ input) = [] ++ [b.toList ++ input] :=
    pieces_of_free (separates_iff.mp free)
  exact receiveOnto_eq cut (List.forall_mem_singleton.mpr short)

/-- Bytes that complete one line give that line. -/
theorem receive_line {input line : List UInt8} (whole : b.toList ++ input = line ++ [Line.newline])
    (free : Line.newline ∉ line) (short : line.length < Line.limit) :
    ∃ kept, b.receive input = ([Line.text line], kept) ∧ kept.toList = [] := by
  have cut : pieces (· == Line.newline) (b.toList ++ input) = [line] ++ [[]] := by
    rw [whole, pieces_append_cons (separates_iff.mp free) (beq_self_eq_true _)]
    rfl
  exact receiveOnto_eq cut (List.forall_mem_cons.mpr ⟨short, List.forall_mem_singleton.mpr (by decide)⟩)

theorem line_unique {line line' behind behind' : List UInt8} (free : Line.newline ∉ line)
    (free' : Line.newline ∉ line') (h : line ++ Line.newline :: behind = line' ++ Line.newline :: behind') :
    line = line' ∧ behind = behind' := by
  have cut := congrArg (pieces (· == Line.newline)) h
  rw [pieces_append_cons (separates_iff.mp free) (beq_self_eq_true _),
    pieces_append_cons (separates_iff.mp free') (beq_self_eq_true _)] at cut
  obtain ⟨rfl, -⟩ := List.cons.inj cut
  exact ⟨rfl, (List.cons.inj (List.append_cancel_left h)).2⟩

/-- Bytes without a newline that begin like a line begin the line. -/
theorem begins_line {begun bs line behind : List UInt8} (free : Line.newline ∉ begun)
    (h : begun ++ bs = line ++ Line.newline :: behind) :
    ∃ more, line = begun ++ more ∧ bs = more ++ Line.newline :: behind := by
  rcases List.append_eq_append_iff.mp h with ⟨more, same, rest⟩ | ⟨more, same, rest⟩
  · exact ⟨more, same, rest⟩
  · cases more with
    | nil => exact ⟨[], by simpa using same.symm, rest.symm⟩
    | cons c more =>
      obtain ⟨rfl, -⟩ := List.cons.inj rest
      rw [same] at free
      exact absurd (List.mem_append_right line List.mem_cons_self) free

/-- What is read off a wire is the text in front of the first newline, however it arrives, unless it is
too long. -/
theorem readLine_cases {w : Wire} {chunks : List (List UInt8)} (gives : w.Gives chunks)
    {line behind : List UInt8}
    (whole : b.toList ++ chunks.flatten = line ++ Line.newline :: behind) (free : Line.newline ∉ line) :
    (∃ kept after later, b.readLine w = ((Line.text line).map some, kept, after) ∧
      after.Gives later ∧ kept.toList ++ later.flatten = behind) ∨
    Line.limit ≤ line.length ∧ (b.readLine w).1 = .error .lineTooLong := by
  fun_induction readLine b w generalizing chunks with
  | case1 b w bytes rest found =>
    obtain ⟨split, free'⟩ := step_line found
    rw [split, List.append_assoc, List.cons_append] at whole
    obtain ⟨rfl, rfl⟩ := line_unique free' free whole
    exact Or.inl ⟨rest, w, chunks, rfl, gives, rfl⟩
  | case2 b w same found =>
    obtain ⟨free', long⟩ := step_tooLong found
    obtain ⟨more, rfl, -⟩ := begins_line free' whole
    refine Or.inr ⟨?_, rfl⟩
    rw [List.length_append]
    omega
  | case3 b w same found e after failed =>
    rcases gives.read (show 0 < Line.block by decide) with ⟨-, read⟩ | ⟨_, _, _, _, read, -⟩
    all_goals cases failed.symm.trans read
  | case4 b w same found after ended =>
    -- the end of the stream is behind the line
    obtain ⟨-, free', -⟩ := step_starved found
    obtain ⟨more, -, rest⟩ := begins_line free' whole
    rcases gives.read (show 0 < Line.block by decide) with ⟨rfl, -⟩ | ⟨_, _, _, _, read, -⟩
    · simp at rest
    · cases ended.symm.trans read
  | case5 b w same found byte bs after got ih =>
    obtain ⟨toList, -, -⟩ := step_starved found
    rcases gives.read (show 0 < Line.block by decide) with ⟨-, read⟩ | ⟨_, _, later, _, read, gives', split⟩
    · cases got.symm.trans read
    · cases got.symm.trans read
      refine ih gives' ?_
      rw [toList_feed, toList, List.append_assoc, ← split]
      exact whole

theorem readLine_starved (found : b.step = .starved same) (w : Wire) :
    b.readLine w = match w.read Line.block with
      | (.error e, after) => (.error (.channel e), same, after)
      | (.ok [], after) =>
        (if same.isEmpty then .ok none else .error (.protocol .endedMidLine), same, after)
      | (.ok (byte :: bs), after) => (same.feed (byte :: bs)).readLine after := by
  rw [readLine, found]
  simp only
  split <;> rename_i read <;> rw [read]

theorem readLine_congr {w v : Wire} (arrivals : w.arrivals = v.arrivals) :
    (b.readLine w).1 = (b.readLine v).1 := by
  fun_induction readLine b w generalizing v with
  | case1 b w bytes rest found => rw [readLine, found]
  | case2 b w same found => rw [readLine, found]
  | case3 b w same found e after failed =>
    obtain ⟨after', read, -⟩ := Wire.read_congr arrivals failed
    rw [readLine_starved found, read]
  | case4 b w same found after ended =>
    obtain ⟨after', read, -⟩ := Wire.read_congr arrivals ended
    rw [readLine_starved found, read]
  | case5 b w same found byte bs after got ih =>
    obtain ⟨after', read, later⟩ := Wire.read_congr arrivals got
    rw [readLine_starved found v, read]
    exact ih later

/-- Reading writes nothing. -/
theorem readLine_sent (b : LineBuffer) (w : Wire) : (b.readLine w).2.2.sent = w.sent := by
  fun_induction readLine b w with
  | case1 b w bytes rest found => rfl
  | case2 b w same found => rfl
  | case3 b w same found e after failed => rw [← w.read_sent Line.block, failed]
  | case4 b w same found after ended => rw [← w.read_sent Line.block, ended]
  | case5 b w same found byte bs after got ih => rw [ih, ← w.read_sent Line.block, got]

end LineBuffer

namespace Line

/-- What is heard of a text that is sent as a line. -/
def heard (s : String) : String :=
  let first := s.toList.takeWhile (· != '\n')
  String.ofList (if first.getLast? = some '\r' then first.dropLast else first)

theorem newline_eq : newline = UInt8.ofNat '\n'.toNat := rfl

theorem carriageReturn_eq : carriageReturn = UInt8.ofNat '\r'.toNat := rfl

theorem content_encode (cs : List Char) : content (Utf8.encode (String.ofList cs)) =
    Utf8.encode (String.ofList (if cs.getLast? = some '\r' then cs.dropLast else cs)) := by
  have ends := Utf8.getLast?_encode (show '\r'.toNat < 128 by decide) (String.ofList cs)
  rw [String.toList_ofList] at ends
  rw [content, carriageReturn_eq]
  by_cases h : cs.getLast? = some '\r'
  · obtain ⟨before, rfl⟩ := List.getLast?_eq_some_iff.mp h
    rw [if_pos (ends.mpr h), if_pos h]
    rw [List.dropLast_concat, Utf8.encode_ofList, List.flatMap_append, List.flatMap_singleton,
      Utf8.encodeChar_of_ascii (by decide), List.dropLast_concat, Utf8.encode_ofList]
  · rw [if_neg (fun last => h (ends.mp last)), if_neg h]

/-- The bytes in front of the first newline are heard as text, whatever the text is. -/
theorem text_takeWhile (s : String) :
    text ((Utf8.encode s).takeWhile (· != newline)) = .ok (heard s) := by
  have first := Utf8.takeWhile_encode (show '\n'.toNat < 128 by decide) s
  rw [text, newline_eq, first, content_encode, Utf8.decode?_encode]
  rfl

theorem bytes_split (s : String) :
    ∃ behind, bytes s = (Utf8.encode s).takeWhile (· != newline) ++ newline :: behind := by
  have split := List.takeWhile_append_dropWhile (p := (· != newline)) (l := Utf8.encode s)
  have stop := List.head?_dropWhile_not (· != newline) (Utf8.encode s)
  cases rest : (Utf8.encode s).dropWhile (· != newline) with
  | nil =>
    rw [rest, List.append_nil] at split
    exact ⟨[], by rw [split, bytes]⟩
  | cons c more =>
    rw [rest] at split stop
    obtain rfl : c = newline := by simpa using stop
    exact ⟨more ++ [newline], by rw [bytes, ← List.cons_append, ← List.append_assoc, split]⟩

/-- A text that a line can carry as it is. -/
def Plain (s : String) : Prop := ∀ c ∈ s.toList, c ≠ '\n' ∧ c ≠ '\r'

instance (s : String) : Decidable (Plain s) := List.decidableBAll _ _

theorem plain_append_iff {s t : String} : Plain (s ++ t) ↔ Plain s ∧ Plain t := by
  simp only [Plain, String.toList_append, List.forall_mem_append]

/-- The endings of lines are among the control characters. -/
theorem plain_of_le {s : String} (above : ∀ c ∈ s.toList, 32 ≤ c.toNat) : Plain s := by
  intro c mem
  have low := above c mem
  constructor
  · rintro rfl
    exact absurd low (by decide)
  · rintro rfl
    exact absurd low (by decide)

theorem plain_of_isWord {w : String} (hw : IsWord w) : Plain w :=
  plain_of_le fun c mem => Nat.le_of_lt (hw.visible c mem).1

theorem plain_space : Plain " " := by decide

theorem plain_word_append {w rest : String} (word : IsWord w) (plain : Plain rest) :
    Plain (w ++ (" " ++ rest)) :=
  plain_append_iff.mpr ⟨plain_of_isWord word, plain_append_iff.mpr ⟨plain_space, plain⟩⟩

theorem size_of_isWord {w : String} (hw : IsWord w) : Utf8.size w = w.toList.length :=
  Utf8.size_of_ascii fun c mem => Nat.lt_trans (hw.visible c mem).2 (by decide)

/-- What stands in front of a text is heard with it. -/
theorem heard_append {s : String} (plain : Plain s) (t : String) : heard (s ++ t) = s ++ heard t := by
  have passes : ∀ c ∈ s.toList, (c != '\n') = true := fun c mem => bne_iff_ne.mpr (plain c mem).1
  simp only [heard, String.toList_append, List.takeWhile_append_of_pos passes]
  cases first : t.toList.takeWhile (· != '\n') with
  | nil =>
    have ends : s.toList.getLast? ≠ some '\r' := fun h => (plain _ (List.mem_of_getLast? h)).2 rfl
    simp [ends]
  | cons c cs =>
    have same : (s.toList ++ c :: cs).getLast? = (c :: cs).getLast? := by simp [List.getLast?_cons]
    rw [same]
    split
    · rw [List.dropLast_append_of_ne_nil (List.cons_ne_nil c cs)]
      simp
    · simp

theorem heard_plain {s : String} (plain : Plain s) : heard s = s := by
  have whole := heard_append plain ""
  rwa [String.append_empty, show heard "" = "" from rfl, String.append_empty] at whole

/-- The bytes of a plain text are one line. -/
theorem newline_free_of_plain {s : String} (plain : Plain s) : newline ∉ Utf8.encode s := by
  intro mem
  have mem := (Utf8.mem_encode_iff (show '\n'.toNat < 128 by decide)).mp mem
  exact (plain _ mem).1 rfl

theorem takeWhile_plain {s : String} (plain : Plain s) :
    (Utf8.encode s).takeWhile (· != newline) = Utf8.encode s := by
  have passes : ∀ b ∈ Utf8.encode s, (b != newline) = true := by
    intro b mem
    refine bne_iff_ne.mpr ?_
    rintro rfl
    exact newline_free_of_plain plain mem
  have whole : (Utf8.encode s ++ []).takeWhile (· != newline) = Utf8.encode s ++ [] :=
    List.takeWhile_append_of_pos passes
  rwa [List.append_nil] at whole

theorem text_plain {s : String} (plain : Plain s) : text (Utf8.encode s) = .ok s := by
  have told := text_takeWhile s
  rwa [heard_plain plain, takeWhile_plain plain] at told

end Line

end Roster

import Mathlib.Data.List.Forall2
import Mathlib.Data.List.Nodup
import Mathlib.Data.List.Perm.Basic
import Roster.Proofs.Group.RoundTrip
import Roster.Proofs.Token.Extent

/-!
# Damaged streams

A stream that has lost tokens or gained some does not have as many as its header says, one whose records
stand in another order has one that is out of order, and a token that has lost its end or has something
behind it is not read. In each case the error says what has happened, and where.
-/

namespace Roster

theorem Node.steady_read (format : FormatVersion) : (read format).Steady := by
  refine (Reader.steady_text _).bind fun name => (Reader.steady_u32 _).bind fun id =>
    (Reader.steady_u8 _).bind fun code => (Reader.steady_ofExcept _).bind fun kind =>
    (Reader.steady_text _).bind fun host => (Reader.steady_u16 _).bind fun port =>
    (Reader.steady_bool _).bind fun removed => (Reader.steady_u32 _).bind fun change => ?_
  split
  · exact (Reader.steady_optionalText _).bind fun software =>
      Reader.steady_finish.bind fun _ => Reader.steady_pure _
  · exact (Reader.steady_pure none).bind fun software =>
      Reader.steady_finish.bind fun _ => Reader.steady_pure _

theorem Header.steady_read : read.Steady :=
  ((Reader.steady_u16 _).bind fun _ => Reader.steady_ofExcept _).bind fun _ =>
    (Reader.steady_text _).bind fun _ => (Reader.steady_bytes 16 _).bind fun _ =>
    (Reader.steady_u32 _).bind fun _ => (Reader.steady_u32 _).bind fun _ =>
    (Reader.steady_u32 _).bind fun _ => Reader.steady_finish.bind fun _ => Reader.steady_pure _

theorem Header.spans {h : Header} (fits : Field.Fits h.name) : read.Spans h.bytes :=
  reads.spans steady_read ⟨fits, rfl⟩

/-- A record that may stand behind the header: its format has it, and its id has been handed out. -/
structure Header.Allows (h : Header) (n : Node) : Prop where
  expressible : n.Expressible h.format
  fits : n.Fits h.format
  id_le : n.id ≤ h.sequence

namespace Header.Allows

variable {h : Header} {m n : Node}

theorem token_eq (allowed : h.Allows n) (index : Nat) :
    (Node.read h.format).token index (n.bytes h.format) = .ok n :=
  Node.token_eq_ok_iff.mpr ⟨allowed.expressible, allowed.fits, rfl⟩

theorem spans (allowed : h.Allows n) : (Node.read h.format).Spans (n.bytes h.format) :=
  (Node.reads h.format).spans (Node.steady_read h.format) ⟨allowed.expressible, allowed.fits, rfl⟩

theorem bytes_inj (hm : h.Allows m) (hn : h.Allows n) (same : m.bytes h.format = n.bytes h.format) : m = n := by
  have read := hm.token_eq 0
  rw [same, hn.token_eq] at read
  exact (Except.ok.inj read).symm

end Header.Allows

namespace Group

section Reading

variable {h : Header} {index : Nat} {token damaged : List UInt8} {ns : List Node} {e : StreamError}
  {before after front rest tokens : List (List UInt8)} {done middle : Records.Builder}

theorem ofStream_encode (some : tokens ≠ []) (full : ∀ token ∈ tokens, token ≠ []) :
    ofStream (TokenStream.encode tokens) = ofTokens tokens := by
  rw [ofStream, TokenStream.decode_eq_ok_iff.mpr ⟨some, full, rfl⟩]
  rfl

/-- A token can be replaced by any bytes. -/
theorem ofStream_replaced (full : ∀ other ∈ before ++ token :: after, other ≠ []) (some : damaged ≠ []) :
    ofStream (TokenStream.encode (before ++ damaged :: after)) = ofTokens (before ++ damaged :: after) := by
  obtain ⟨front, behind⟩ := List.forall_mem_append.mp full
  have behind := (List.forall_mem_cons.mp behind).2
  refine ofStream_encode (by simp) (List.forall_mem_append.mpr ⟨front, ?_⟩)
  exact List.forall_mem_cons.mpr ⟨some, behind⟩

/-- The records in front are read first, and then those behind them. -/
theorem readRecords_append (read : readRecords h index front done = .ok middle) :
    readRecords h index (front ++ rest) done = readRecords h (index + front.length) rest middle := by
  induction front generalizing index done with
  | nil =>
    cases read
    rfl
  | cons token front ih =>
    rw [readRecords] at read
    rw [List.cons_append, readRecords]
    cases first : readRecord h index token done with
    | error e =>
      rw [first] at read
      cases read
    | ok next =>
      rw [first] at read
      simp only [ih read, List.length_cons]
      rw [Nat.add_assoc, Nat.add_comm 1]

/-- A record that cannot be read is complained of once those in front of it have been read. -/
theorem readRecords_stops (read : readRecords h index front done = .ok middle)
    (failed : (Node.read h.format).token (index + front.length) token = .error e) :
    readRecords h index (front ++ token :: rest) done = .error e := by
  have stops : readRecord h (index + front.length) token middle = .error e :=
    bind_eq_error_iff.mpr (Or.inl failed)
  rw [readRecords_append read, readRecords, stops]

theorem readRecord_outOfOrder {n : Node} {previous : String} (allowed : h.Allows n)
    (pushed : done.push n = .error previous) :
    readRecord h index (n.bytes h.format) done = .error (.malformedToken index (.outOfOrder n.name previous)) := by
  refine bind_eq_error_iff.mpr (Or.inr ⟨n, allowed.token_eq index, ?_⟩)
  refine guard_bind_eq_error_iff.mpr (Or.inr ⟨UInt32.not_lt.mpr allowed.id_le, ?_⟩)
  rw [pushed]
  rfl

/-- Records that the header allows can fail to be read in one way only. -/
theorem readRecords_allowed (allowed : ∀ n ∈ ns, h.Allows n) (index : Nat) (done : Records.Builder) :
    (∃ more, readRecords h index (ns.map (Node.bytes h.format)) done = .ok more ∧
      more.reversed = ns.reverse ++ done.reversed) ∨
    ∃ place name previous, readRecords h index (ns.map (Node.bytes h.format)) done =
      .error (.malformedToken place (.outOfOrder name previous)) := by
  induction ns generalizing index done with
  | nil => exact Or.inl ⟨done, rfl, rfl⟩
  | cons n ns ih =>
    obtain ⟨first, later⟩ := List.forall_mem_cons.mp allowed
    rw [List.map_cons, readRecords]
    cases pushed : done.push n with
    | error previous =>
      rw [readRecord_outOfOrder first pushed]
      exact Or.inr ⟨index, n.name, previous, rfl⟩
    | ok next =>
      have read : readRecord h index (n.bytes h.format) done = .ok next :=
        readRecord_eq_ok_iff.mpr ⟨n, ⟨first.expressible, first.fits, first.id_le⟩, rfl,
          Records.Builder.push_eq_ok_iff.mp pushed⟩
      rw [read]
      rcases ih later (index + 1) next with ⟨more, rest, reversed⟩ | ⟨place, name, previous, fault⟩
      · refine Or.inl ⟨more, rest, ?_⟩
        rw [reversed, Records.Builder.push_eq_ok_iff.mp pushed]
        simp
      · exact Or.inr ⟨place, name, previous, fault⟩

theorem ofTokens_of_header (failed : Header.read.token 0 token = .error e) (rest : List (List UInt8)) :
    ofTokens (token :: rest) = .error e :=
  bind_eq_error_iff.mpr (Or.inl failed)

theorem ofTokens_of_count (read : Header.read.token 0 token = .ok h) (other : rest.length ≠ h.count.toNat) :
    ofTokens (token :: rest) = .error (.tokenCount h.count rest.length) :=
  bind_eq_error_iff.mpr (Or.inr ⟨h, read, guard_bind_eq_error_iff.mpr (Or.inl ⟨other, rfl⟩)⟩)

theorem ofTokens_of_records (read : Header.read.token 0 token = .ok h) (same : rest.length = h.count.toNat)
    (failed : readRecords h 1 rest Records.Builder.empty = .error e) : ofTokens (token :: rest) = .error e :=
  bind_eq_error_iff.mpr (Or.inr ⟨h, read, guard_bind_eq_error_iff.mpr (Or.inr ⟨not_not_intro same,
    bind_eq_error_iff.mpr (Or.inl failed)⟩)⟩)

end Reading

section Written

variable {g : Group}

/-- The tokens of the group's records at its own format. -/
def recordTokens (g : Group) : List (List UInt8) := g.nodes.map (Node.bytes g.format)

theorem length_recordTokens (g : Group) : g.recordTokens.length = g.size := List.length_map _

theorem recordTokens_ne_nil : ∀ token ∈ g.recordTokens, token ≠ [] := by
  intro token mem
  obtain ⟨n, -, rfl⟩ := List.mem_map.mp mem
  exact n.bytes_ne_nil g.format

theorem WellFormed.allows (wf : g.WellFormed) (writable : g.Writable g.format) :
    ∀ n ∈ g.nodes, (g.header g.format).Allows n :=
  fun n mem => ⟨wf.expressible n mem, writable.records n mem, wf.id_le n mem⟩

theorem WellFormed.nodup_recordTokens (wf : g.WellFormed) (writable : g.Writable g.format) :
    g.recordTokens.Nodup := by
  have allowed := wf.allows writable
  exact g.records.nodup.map_on fun m hm n hn => (allowed m hm).bytes_inj (allowed n hn)

theorem Writable.token_header (writable : g.Writable g.format) :
    Header.read.token 0 (g.header g.format).bytes = .ok (g.header g.format) :=
  Header.token_eq_ok_iff.mpr ⟨writable.name, rfl⟩

/-- A stream with another number of records than its header says is refused for that. -/
theorem Writable.ofTokens_of_length (writable : g.Writable g.format) {tokens : List (List UInt8)}
    (other : tokens.length ≠ g.size) : ofTokens ((g.header g.format).bytes :: tokens) =
      .error (.tokenCount (g.header g.format).count tokens.length) :=
  ofTokens_of_count writable.token_header (writable.toNat_count.symm ▸ other)

/-- Records in another order are refused for that. -/
theorem WellFormed.ofTokens_shuffled (wf : g.WellFormed) (writable : g.Writable g.format)
    {shuffled : List (List UInt8)} (perm : shuffled.Perm g.recordTokens) (other : shuffled ≠ g.recordTokens) :
    ∃ index name previous, ofTokens ((g.header g.format).bytes :: shuffled) =
      .error (.malformedToken index (.outOfOrder name previous)) := by
  have spelled : List.Forall₂ (fun token n => token = Node.bytes g.format n) g.recordTokens g.nodes :=
    List.forall₂_map_left_iff.mpr (List.forall₂_same.mpr fun _ _ => rfl)
  obtain ⟨ns, same, moved⟩ := List.perm_comp_forall₂ perm spelled
  obtain rfl : shuffled = ns.map (Node.bytes g.format) :=
    (List.forall₂_eq_eq_eq ▸ List.forall₂_map_right_iff.mpr same :)
  have allowed : ∀ n ∈ ns, (g.header g.format).Allows n :=
    fun n mem => wf.allows writable n (moved.mem_iff.mp mem)
  rcases readRecords_allowed allowed 1 Records.Builder.empty with
    ⟨more, -, reversed⟩ | ⟨index, name, previous, fault⟩
  · -- had all been read, they would stand in the order of their names
    have ascending : ns.Pairwise Node.Precedes := by
      have descending := more.descending
      rw [reversed, Records.Builder.empty, List.append_nil] at descending
      exact List.pairwise_reverse.mp descending
    have inOrder : ns = g.nodes := Records.eq_of_perm moved ascending
    exact absurd (congrArg (List.map (Node.bytes g.format)) inOrder) other
  · refine ⟨index, name, previous, ofTokens_of_records writable.token_header ?_ fault⟩
    rw [writable.toNat_count, perm.length_eq, length_recordTokens]

/-- The records in front of a token are read, whatever is behind them. -/
theorem readRecords_front (wf : g.WellFormed) (writable : g.Writable g.format)
    {ns behind : List Node} (split : g.nodes = ns ++ behind) : ∃ done,
      readRecords (g.header g.format) 1 (ns.map (Node.bytes g.format)) Records.Builder.empty = .ok done := by
  have ascending : (ns ++ behind).Pairwise Node.Precedes := split ▸ g.records.ascending
  let done : Records.Builder := ⟨ns.reverse, List.pairwise_reverse.mpr (List.pairwise_append.mp ascending).1⟩
  refine ⟨done, readRecords_eq_ok_iff.mpr ⟨ns, fun n mem => ?_, rfl, (List.append_nil _).symm⟩⟩
  have allowed := wf.allows writable n (split ▸ List.mem_append_left behind mem)
  exact ⟨allowed.expressible, allowed.fits, allowed.id_le⟩

variable {before after : List (List UInt8)} {token damaged kept missing extra : List UInt8}

/-- A token that no longer is a whole record is complained of as its own reader does. -/
theorem WellFormed.ofTokens_damaged (wf : g.WellFormed) (writable : g.Writable g.format)
    (split : (g.header g.format).bytes :: g.recordTokens = before ++ token :: after) (P : TokenFault → Prop)
    (told : ∀ {α : Type} {r : Reader α}, r.Spans token → ∀ index,
      ∃ fault, P fault ∧ r.token index damaged = .error (.malformedToken index fault)) :
    ∃ fault, P fault ∧ ofTokens (before ++ damaged :: after) = .error (.malformedToken before.length fault) := by
  cases before with
  | nil =>
    obtain ⟨rfl, rfl⟩ := List.cons.inj split
    obtain ⟨fault, known, failed⟩ := told (Header.spans writable.name) 0
    exact ⟨fault, known, ofTokens_of_header failed _⟩
  | cons first front =>
    obtain ⟨rfl, records⟩ := List.cons.inj split
    obtain ⟨ns, behind, nodes, rfl, spelled⟩ := List.map_eq_append_iff.mp records
    obtain ⟨n, later, rfl, rfl, rfl⟩ := List.map_eq_cons_iff.mp spelled
    have allowed := wf.allows writable n (nodes ▸ List.mem_append_right ns List.mem_cons_self)
    obtain ⟨fault, known, failed⟩ := told allowed.spans (1 + ns.length)
    obtain ⟨done, read⟩ := readRecords_front wf writable nodes
    refine ⟨fault, known, ofTokens_of_records writable.token_header ?_ ?_⟩
    · rw [writable.toNat_count, show g.size = g.nodes.length from rfl, nodes]
      simp
    · rw [List.length_cons, List.length_map, Nat.add_comm]
      exact readRecords_stops read (by rwa [List.length_map])

theorem WellFormed.ofTokens_cut (wf : g.WellFormed) (writable : g.Writable g.format)
    (split : (g.header g.format).bytes :: g.recordTokens = before ++ (kept ++ missing) :: after)
    (some : missing ≠ []) : ∃ field offset, ofTokens (before ++ kept :: after) =
      .error (.malformedToken before.length (.truncated field offset)) := by
  obtain ⟨_, ⟨field, offset, rfl⟩, failed⟩ := wf.ofTokens_damaged writable split
    (fun fault => ∃ field offset, fault = .truncated field offset) fun whole index => by
      obtain ⟨field, offset, failed⟩ := whole.token_cut some index
      exact ⟨_, ⟨field, offset, rfl⟩, failed⟩
  exact ⟨field, offset, failed⟩

theorem WellFormed.ofTokens_excess (wf : g.WellFormed) (writable : g.Writable g.format)
    (split : (g.header g.format).bytes :: g.recordTokens = before ++ token :: after) (some : extra ≠ []) :
    ofTokens (before ++ (token ++ extra) :: after) =
      .error (.malformedToken before.length (.trailing extra.length)) := by
  obtain ⟨_, rfl, failed⟩ := wf.ofTokens_damaged writable split (· = .trailing extra.length) fun whole index =>
    ⟨_, rfl, whole.token_excess some index⟩
  exact failed

end Written

/-- No damage to a stream goes unseen, and the error says where it is. Without some of its records, or with
more tokens behind the header, the stream is refused with the number of records that the header declares and
the number found. No two of its records are the same, and in another order one is out of order. A token that
has lost some of its bytes at the end but not all, or has been given more, is the token that the error names. -/
theorem damage_is_located {g : Group} (reachable : g.Reachable) {stream : String} (written : g.stream = .ok stream) :
    ∃ header records, TokenStream.decode stream = .ok (header :: records) ∧
      (∃ declared : UInt32, declared.toNat = records.length ∧
        (∀ kept, kept.Sublist records → kept ≠ records →
          ofStream (TokenStream.encode (header :: kept)) = .error (.tokenCount declared kept.length)) ∧
        ∀ longer, records.Sublist longer → longer ≠ records → (∀ token ∈ longer, token ≠ []) →
          ofStream (TokenStream.encode (header :: longer)) = .error (.tokenCount declared longer.length)) ∧
      records.Nodup ∧
      (∀ shuffled, shuffled.Perm records → shuffled ≠ records → ∃ index name previous,
        ofStream (TokenStream.encode (header :: shuffled)) =
          .error (.malformedToken index (.outOfOrder name previous))) ∧
      ∀ before token after, header :: records = before ++ token :: after →
        (∀ kept missing, token = kept ++ missing → kept ≠ [] → missing ≠ [] → ∃ field offset,
          ofStream (TokenStream.encode (before ++ kept :: after)) =
            .error (.malformedToken before.length (.truncated field offset))) ∧
        ∀ extra, extra ≠ [] → ofStream (TokenStream.encode (before ++ (token ++ extra) :: after)) =
          .error (.malformedToken before.length (.trailing extra.length)) := by
  have wf := reachable.wellFormed
  obtain ⟨writable, decoded⟩ := streamAt_eq_ok_iff.mp written
  have full : ∀ {records}, (∀ token ∈ records, token ≠ []) →
      ∀ token ∈ (g.header g.format).bytes :: records, token ≠ [] :=
    fun full => List.forall_mem_cons.mpr ⟨Header.bytes_ne_nil _, full⟩
  refine ⟨(g.header g.format).bytes, g.recordTokens, decoded, ⟨(g.header g.format).count, ?_, ?_, ?_⟩,
    wf.nodup_recordTokens writable, ?_, ?_⟩
  · rw [writable.toNat_count, length_recordTokens]
  · intro kept part other
    have fewer : kept.length ≠ g.size := fun same =>
      other (part.eq_of_length (same.trans g.length_recordTokens.symm))
    rw [ofStream_encode (List.cons_ne_nil _ _) (full fun token mem => recordTokens_ne_nil token (part.subset mem))]
    exact writable.ofTokens_of_length fewer
  · intro longer part other some
    have more : longer.length ≠ g.size := fun same =>
      other (part.eq_of_length (g.length_recordTokens.trans same.symm)).symm
    rw [ofStream_encode (List.cons_ne_nil _ _) (full some)]
    exact writable.ofTokens_of_length more
  · intro shuffled perm other
    rw [ofStream_encode (List.cons_ne_nil _ _) (full fun token mem => recordTokens_ne_nil token (perm.subset mem))]
    exact wf.ofTokens_shuffled writable perm other
  · intro before token after split
    have filled : ∀ other ∈ before ++ token :: after, other ≠ [] := split ▸ full recordTokens_ne_nil
    constructor
    · rintro kept missing rfl some lost
      rw [ofStream_replaced filled some]
      exact wf.ofTokens_cut writable split lost
    · intro extra some
      rw [ofStream_replaced filled (by simp [some])]
      exact wf.ofTokens_excess writable split some

def grownStream : String :=
  "000200066f726465727300000000000000000000000000000000000000020000000200000002|" ++
    "00026e30000000020000016800090000000002010003372e35|" ++
    "00026e3100000001010002646200070000000001010002c3a9"

/-- What becomes of the grown sample's stream when it is damaged in each of these ways. -/
theorem grown_damage_is_located : grown.Reachable ∧ grown.stream = .ok grownStream ∧
    ∃ header first second, TokenStream.decode grownStream = .ok [header, first, second] ∧
      ofStream (TokenStream.encode [header, second]) = .error (.tokenCount 2 1) ∧
      ofStream (TokenStream.encode [header, first, first, second]) = .error (.tokenCount 2 3) ∧
      (∃ index name previous, ofStream (TokenStream.encode [header, second, first]) =
        .error (.malformedToken index (.outOfOrder name previous))) ∧
      (∃ field offset, ofStream (TokenStream.encode [header, first.take 1, second]) =
        .error (.malformedToken 1 (.truncated field offset))) ∧
      ofStream (TokenStream.encode [header, first, second ++ [0]]) =
        .error (.malformedToken 2 (.trailing 1)) := by
  have written : grown.stream = .ok grownStream := by decide +kernel
  obtain ⟨header, records, decoded, ⟨declared, count, lost, gained⟩, -, moved, damaged⟩ :=
    damage_is_located reachable_grown written
  have spelled : TokenStream.decode grownStream = .ok [(grown.header .v2).bytes,
      Node.bytes .v2 ⟨"n0", 2, .electable, "h", 9, some "7.5", false, 2⟩,
      Node.bytes .v2 ⟨"n1", 1, .monitor, "db", 7, some "é", false, 1⟩] := by decide +kernel
  generalize first : Node.bytes .v2 ⟨"n0", 2, .electable, "h", 9, some "7.5", false, 2⟩ = n0 at spelled
  generalize second : Node.bytes .v2 ⟨"n1", 1, .monitor, "db", 7, some "é", false, 1⟩ = n1 at spelled
  obtain ⟨rfl, rfl⟩ := List.cons.inj (Except.ok.inj (decoded.symm.trans spelled))
  obtain rfl : declared = 2 := UInt32.toNat_inj.mp count
  have differ : n1 ≠ n0 := by
    subst first second
    decide +kernel
  refine ⟨reachable_grown, written, _, n0, n1, spelled, ?_, ?_, ?_, ?_, ?_⟩
  · exact lost [n1] (.cons _ (.refl _)) (by simp)
  · exact gained [n0, n0, n1] (.cons _ (.refl _)) (by simp) (by subst first second; decide +kernel)
  · exact moved [n1, n0] (.swap _ _ _) (by simp [differ])
  · refine (damaged [_] n0 [n1] rfl).1 (n0.take 1) (n0.drop 1) (List.take_append_drop 1 n0).symm ?_ ?_
    · subst first
      decide +kernel
    · subst first
      decide +kernel
  · exact (damaged [_, n0] n1 [] rfl).2 [0] (by simp)

end Group

end Roster

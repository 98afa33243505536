import Roster.Proofs.Group.Record
import Roster.Proofs.Group.Records
import Roster.Proofs.Result
import Roster.Proofs.Token.Stream

/-!
# Groups and their streams

A stream is read exactly when it is what writing makes of a well-formed group: one whose ids lie
within its sequence and whose records its own format can express. So well-formed groups and
accepted streams correspond one to one.
-/

namespace Roster

theorem FormatVersion.carriesSecondary_iff {format : FormatVersion} :
    format.carriesSecondary = true ↔ format = .v3 := by
  cases format <;> decide

theorem NodeType.oldestFormat_le_iff {t : NodeType} {format : FormatVersion} :
    t.oldestFormat ≤ format ↔ t = .secondary → format.carriesSecondary = true := by
  cases t <;> cases format <;> decide

theorem NodeType.not_oldestFormat_le_iff {t : NodeType} {format : FormatVersion} :
    ¬ t.oldestFormat ≤ format ↔ t = .secondary ∧ format ≠ .v3 := by
  cases t <;> cases format <;> decide

theorem Node.isSecondary_iff {n : Node} : n.isSecondary = true ↔ n.kind = .secondary :=
  beq_iff_eq

namespace Records

@[simp] theorem Builder.toList_records (b : Builder) : b.records.toList = b.reversed.reverse := rfl

theorem Builder.ext_reversed {b c : Builder} (h : b.reversed = c.reversed) : b = c := by
  cases b
  cases c
  cases h
  rfl

theorem Builder.push_eq_ok_iff {b more : Builder} {n : Node} :
    b.push n = .ok more ↔ more.reversed = n :: b.reversed := by
  obtain ⟨done, hdone⟩ := b
  obtain ⟨after, hafter⟩ := more
  cases done with
  | nil => simp [push, eq_comm]
  | cons m rest =>
    by_cases hm : m.Precedes n
    · simp [push, hm, eq_comm]
    · constructor
      · intro h
        simp [push, hm] at h
      · intro h
        have he : after = n :: m :: rest := h
        subst he
        exact absurd ((List.pairwise_cons.mp hafter).1 m List.mem_cons_self) hm

theorem secondaryCount_eq_zero_iff {r : Records} :
    r.secondaryCount = 0 ↔ ∀ n ∈ r.toList, n.kind ≠ .secondary := by
  simp only [secondaryCount, List.countP_eq_zero, Node.isSecondary_iff, ne_eq]

end Records

namespace Group

/-- What reading guarantees of a group and every edit keeps. -/
structure WellFormed (g : Group) : Prop where
  id_le : ∀ n ∈ g.nodes, n.id ≤ g.sequence
  expressible : ∀ n ∈ g.nodes, n.Expressible g.format

/-- No record is secondary, or the format has secondary nodes. -/
def Carries (g : Group) (format : FormatVersion) : Prop :=
  (∀ n ∈ g.nodes, n.kind ≠ .secondary) ∨ format = .v3

/-- A group that can be written at a format. -/
structure Writable (g : Group) (format : FormatVersion) : Prop where
  carries : g.Carries format
  count : g.size < UInt32.size
  name : Field.Fits g.name
  records : ∀ n ∈ g.nodes, n.Fits format

theorem checkFormat_eq_ok_iff {g : Group} {format : FormatVersion} :
    g.checkFormat format = .ok () ↔ g.Carries format := by
  rw [checkFormat, Carries, ← FormatVersion.carriesSecondary_iff, or_comm, nodes, ← Records.secondaryCount_eq_zero_iff]
  by_cases hs : format.carriesSecondary = true <;> by_cases hc : g.records.secondaryCount = 0 <;>
    simp [hs, hc]

theorem tokens_eq_ok_iff {g : Group} {format : FormatVersion} {tokens : List (List UInt8)} :
    g.tokens format = .ok tokens ↔ g.Writable format ∧
      tokens = (g.header format).bytes :: g.nodes.map (Node.bytes format) := by
  have records : ∀ bs, g.nodes.mapM (fun n => (n.write format).record) = .ok bs ↔
      (∀ n ∈ g.nodes, n.Fits format) ∧ bs = g.nodes.map (Node.bytes format) :=
    fun _ => mapM_eq_ok_iff (fun _ _ => Node.record_eq_ok_iff) g.nodes
  rw [Group.tokens, bind_eq_ok_iff]
  constructor
  · rintro ⟨⟨⟩, hcheck, h⟩
    obtain ⟨hcount, h⟩ := guard_bind_eq_ok_iff.mp h
    obtain ⟨header, hheader, h⟩ := bind_eq_ok_iff.mp h
    obtain ⟨rs, hrs, h⟩ := bind_eq_ok_iff.mp h
    cases h
    obtain ⟨hname, rfl⟩ := Header.record_eq_ok_iff.mp hheader
    obtain ⟨hfits, rfl⟩ := (records rs).mp hrs
    exact ⟨⟨checkFormat_eq_ok_iff.mp hcheck, Nat.lt_of_not_le hcount, hname, hfits⟩, rfl⟩
  · rintro ⟨writable, rfl⟩
    refine ⟨(), checkFormat_eq_ok_iff.mpr writable.carries, guard_bind_eq_ok_iff.mpr
      ⟨Nat.not_le_of_lt writable.count, bind_eq_ok_iff.mpr ⟨_, Header.record_eq_ok_iff.mpr
        ⟨writable.name, rfl⟩, bind_eq_ok_iff.mpr ⟨_, (records _).mpr ⟨writable.records, rfl⟩, rfl⟩⟩⟩⟩

theorem readRecord_eq_ok_iff {h : Header} {index : Nat} {token : List UInt8}
    {done more : Records.Builder} :
    readRecord h index token done = .ok more ↔
      ∃ n : Node, (n.Expressible h.format ∧ n.Fits h.format ∧ n.id ≤ h.sequence) ∧
        token = n.bytes h.format ∧ more.reversed = n :: done.reversed := by
  rw [readRecord, bind_eq_ok_iff]
  constructor
  · rintro ⟨n, hn, hrest⟩
    obtain ⟨expressible, fits, rfl⟩ := Node.token_eq_ok_iff.mp hn
    obtain ⟨hid, hpush⟩ := guard_bind_eq_ok_iff.mp hrest
    refine ⟨n, ⟨expressible, fits, UInt32.not_lt.mp hid⟩, rfl, ?_⟩
    split at hpush
    · rename_i after hafter
      cases hpush
      exact Records.Builder.push_eq_ok_iff.mp hafter
    · cases hpush
  · rintro ⟨n, ⟨expressible, fits, hid⟩, rfl, hmore⟩
    refine ⟨n, Node.token_eq_ok_iff.mpr ⟨expressible, fits, rfl⟩, guard_bind_eq_ok_iff.mpr
      ⟨UInt32.not_lt.mpr hid, ?_⟩⟩
    rw [Records.Builder.push_eq_ok_iff.mpr hmore]
    rfl

theorem readRecords_eq_ok_iff {h : Header} {index : Nat} {tokens : List (List UInt8)}
    {done more : Records.Builder} :
    readRecords h index tokens done = .ok more ↔
      ∃ ns : List Node, (∀ n ∈ ns, n.Expressible h.format ∧ n.Fits h.format ∧ n.id ≤ h.sequence) ∧
        tokens = ns.map (Node.bytes h.format) ∧ more.reversed = ns.reverse ++ done.reversed := by
  -- what is done so far stays general: every token puts its record in front of it
  induction tokens generalizing index done with
  | nil =>
    rw [readRecords]
    constructor
    · intro hread
      cases hread
      exact ⟨[], by simp, rfl, rfl⟩
    · rintro ⟨ns, -, htokens, hmore⟩
      rw [List.map_eq_nil_iff.mp htokens.symm] at hmore
      exact congrArg Except.ok (Records.Builder.ext_reversed hmore.symm)
  | cons token rest ih =>
    rw [readRecords]
    constructor
    · intro hread
      split at hread
      · rename_i middle hmiddle
        obtain ⟨n, hn, rfl, hn'⟩ := readRecord_eq_ok_iff.mp hmiddle
        obtain ⟨ns, hns, rfl, hmore⟩ := ih.mp hread
        exact ⟨n :: ns, List.forall_mem_cons.mpr ⟨hn, hns⟩, rfl, by rw [hmore, hn']; simp⟩
      · cases hread
    · rintro ⟨ns, hns, htokens, hmore⟩
      cases ns with
      | nil => cases htokens
      | cons n ns =>
        obtain ⟨rfl, rfl⟩ := List.cons.inj htokens
        obtain ⟨hn, hns⟩ := List.forall_mem_cons.mp hns
        rw [List.reverse_cons, List.append_assoc] at hmore
        have sorted := more.descending
        rw [hmore] at sorted
        -- the end result is descending, so the first record could be pushed
        let middle : Records.Builder := ⟨n :: done.reversed, (List.pairwise_append.mp sorted).2.1⟩
        rw [readRecord_eq_ok_iff.mpr ⟨n, hn, rfl, (rfl : middle.reversed = _)⟩]
        exact ih.mpr ⟨ns, hns, rfl, hmore⟩

/-- A well-formed group's own format carries its secondary nodes. -/
theorem WellFormed.carries {g : Group} (h : g.WellFormed) : g.Carries g.format := by
  by_cases hv : g.format = .v3
  · exact Or.inr hv
  · refine Or.inl fun n hn hkind => hv ?_
    exact FormatVersion.carriesSecondary_iff.mp
      (NodeType.oldestFormat_le_iff.mp (h.expressible n hn).kind hkind)

theorem Writable.toNat_count {g : Group} {format : FormatVersion} (h : g.Writable format) :
    (g.header format).count.toNat = g.size := by
  simp only [Group.header, UInt32.toNat_ofNat']
  exact Nat.mod_eq_of_lt h.count

/-- The records of a well-formed group read back as they are. -/
theorem WellFormed.readRecords {g : Group} (wf : g.WellFormed) (writable : g.Writable g.format) :
    ∃ done, readRecords (g.header g.format) 1 (g.nodes.map (Node.bytes g.format))
      Records.Builder.empty = .ok done ∧ done.records = g.records := by
  let done : Records.Builder := ⟨g.nodes.reverse, List.pairwise_reverse.mpr g.records.ascending⟩
  refine ⟨done, ?_, Records.ext_toList (by simp [done, nodes])⟩
  refine readRecords_eq_ok_iff.mpr ⟨g.nodes, fun n hn => ?_, rfl, by
    simp [done, Records.Builder.empty]⟩
  exact ⟨wf.expressible n hn, writable.records n hn, wf.id_le n hn⟩

/-- What is read from tokens is well-formed, and the tokens are those that it is written as. -/
theorem wellFormed_of_ofTokens {tokens : List (List UInt8)} {g : Group} (h : ofTokens tokens = .ok g) :
    g.WellFormed ∧ g.Writable g.format ∧
      tokens = (g.header g.format).bytes :: g.nodes.map (Node.bytes g.format) := by
  cases tokens with
  | nil => cases h
  | cons first rest =>
    obtain ⟨header, hheader, h⟩ := bind_eq_ok_iff.mp h
    obtain ⟨hcount, h⟩ := guard_bind_eq_ok_iff.mp h
    obtain ⟨done, hdone, h⟩ := bind_eq_ok_iff.mp h
    cases h
    obtain ⟨hname, rfl⟩ := Header.token_eq_ok_iff.mp hheader
    obtain ⟨ns, hns, rfl, hreversed⟩ := readRecords_eq_ok_iff.mp hdone
    have hnodes : done.records.toList = ns := by
      rw [Records.Builder.toList_records, hreversed]
      simp [Records.Builder.empty]
    have hsize : ns.length = header.count.toNat := by
      simpa using Decidable.not_not.mp hcount
    have wf : WellFormed ⟨header.name, header.uuid, header.format, header.change,
        header.sequence, done.records⟩ := by
      constructor
      · intro n hn
        exact (hns n (hnodes ▸ hn)).2.2
      · intro n hn
        exact (hns n (hnodes ▸ hn)).1
    refine ⟨wf, ⟨wf.carries, ?_, hname, fun n hn => (hns n (hnodes ▸ hn)).2.1⟩, ?_⟩
    · simp only [size, Records.size, hnodes, hsize]
      exact header.count.toNat_lt
    · simp only [Group.header, nodes, size, Records.size, hnodes, hsize, UInt32.ofNat_toNat]

theorem ofTokens_eq_ok_iff {tokens : List (List UInt8)} {g : Group} :
    ofTokens tokens = .ok g ↔ g.WellFormed ∧ g.tokens g.format = .ok tokens := by
  rw [tokens_eq_ok_iff]
  constructor
  · exact wellFormed_of_ofTokens
  · rintro ⟨wf, writable, rfl⟩
    obtain ⟨done, hdone, hrecords⟩ := wf.readRecords writable
    refine bind_eq_ok_iff.mpr ⟨g.header g.format, Header.token_eq_ok_iff.mpr ⟨writable.name, rfl⟩,
      guard_bind_eq_ok_iff.mpr ⟨?_, bind_eq_ok_iff.mpr ⟨done, hdone, ?_⟩⟩⟩
    · rw [writable.toNat_count, List.length_map]
      exact not_not_intro rfl
    · rw [hrecords]
      rfl

theorem streamAt_eq_ok_iff {g : Group} {format : FormatVersion} {stream : String} :
    g.streamAt format = .ok stream ↔ g.Writable format ∧ TokenStream.decode stream =
      .ok ((g.header format).bytes :: g.nodes.map (Node.bytes format)) := by
  rw [streamAt, map_eq_ok_iff, TokenStream.decode_eq_ok_iff]
  have full : ∀ t ∈ (g.header format).bytes :: g.nodes.map (Node.bytes format), t ≠ [] := by
    simp [Header.bytes_ne_nil, Node.bytes_ne_nil]
  constructor
  · rintro ⟨tokens, htokens, rfl⟩
    obtain ⟨writable, rfl⟩ := tokens_eq_ok_iff.mp htokens
    exact ⟨writable, by simp, full, rfl⟩
  · rintro ⟨writable, -, -, rfl⟩
    exact ⟨_, tokens_eq_ok_iff.mpr ⟨writable, rfl⟩, rfl⟩

theorem exists_streamAt_iff {g : Group} {format : FormatVersion} :
    (∃ stream, g.streamAt format = .ok stream) ↔ g.Writable format := by
  constructor
  · rintro ⟨stream, h⟩
    exact (streamAt_eq_ok_iff.mp h).1
  · intro writable
    exact ⟨_, map_eq_ok_iff.mpr ⟨_, tokens_eq_ok_iff.mpr ⟨writable, rfl⟩, rfl⟩⟩

/-- Reading a stream undoes writing a well-formed group, and nothing else is read. -/
theorem ofStream_eq_ok_iff {stream : String} {g : Group} :
    ofStream stream = .ok g ↔ g.WellFormed ∧ g.stream = .ok stream := by
  rw [ofStream, bind_eq_ok_iff, Group.stream, streamAt_eq_ok_iff]
  constructor
  · rintro ⟨tokens, hdecode, h⟩
    obtain ⟨wf, htokens⟩ := ofTokens_eq_ok_iff.mp h
    obtain ⟨writable, rfl⟩ := tokens_eq_ok_iff.mp htokens
    exact ⟨wf, writable, hdecode⟩
  · rintro ⟨wf, writable, hdecode⟩
    exact ⟨_, hdecode, ofTokens_eq_ok_iff.mpr ⟨wf, tokens_eq_ok_iff.mpr ⟨writable, rfl⟩⟩⟩

theorem streamFormat_eq {stream other : String} {g : Group} (h : g.stream = .ok stream)
    (same : TokenStream.firstToken other = TokenStream.firstToken stream) :
    streamFormat other = .ok g.format := by
  obtain ⟨-, hdecode⟩ := streamAt_eq_ok_iff.mp h
  obtain ⟨-, -, rfl⟩ := TokenStream.decode_eq_ok_iff.mp hdecode
  rw [TokenStream.firstToken_encode] at same
  have first : TokenStream.decode (String.ofList (Hex.encode (g.header g.format).bytes)) =
      .ok [(g.header g.format).bytes] := by
    refine TokenStream.decode_eq_ok_iff.mpr ⟨by simp, ?_, ?_⟩
    · simp [Header.bytes_ne_nil]
    · rw [TokenStream.encode, List.map_singleton, List.intercalate_singleton]
  simp only [streamFormat]
  rw [headD_pieces, ← TokenStream.firstToken, same, first]
  exact Header.format_token _ 0

end Group

end Roster

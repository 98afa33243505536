import Mathlib.Data.List.Nodup
import Roster.Proofs.Admission.Lineage

/-!
# Whether an id stands for one record

Reading a group bounds its ids but does not compare them with each other, so a stream may give two
records one id. Then a look-up by id finds the first of them only. Where the tokens of a stream spell
different ids, every id stands for one record, and no deed changes that.
-/

namespace Roster

/-- The id in a record's token. A record's name stands before its id. -/
def Node.readId : Reader UInt32 := do
  let _ ← Reader.text "node name"
  Reader.u32 "node id"

theorem Node.readId_token {n : Node} {format : FormatVersion} (fits : n.Fits format) (index : Nat) :
    readId.token index (n.bytes format) = .ok n.id := by
  have reads := (Reader.reads_text "node name").bind fun _ => Reader.reads_u32 "node id"
  exact (Reader.token_eq_ok_iff reads).mpr ⟨_, _, ⟨n.name, _, _, ⟨fits.name, rfl⟩, rfl, rfl⟩, trivial,
    (List.append_assoc _ _ _).symm⟩

namespace Group

variable {g g' : Group}

def IdsDistinct (g : Group) : Prop := (g.nodes.map Node.id).Nodup

instance (g : Group) : Decidable g.IdsDistinct := inferInstanceAs (Decidable (List.Nodup _))

theorem idsDistinct_iff : g.IdsDistinct ↔ ∀ m ∈ g.nodes, ∀ n ∈ g.nodes, m.id = n.id → m = n :=
  List.nodup_map_iff_inj_on g.records.nodup

/-- Ids are distinct when looking up a record's id leads back to the record. -/
theorem idsDistinct_iff_findId? : g.IdsDistinct ↔ ∀ n ∈ g.nodes, g.findId? n.id = some n := by
  rw [idsDistinct_iff]
  constructor
  · intro distinct n hn
    obtain ⟨m, found⟩ : ∃ m, g.findId? n.id = some m := by
      refine Option.isSome_iff_exists.mp (List.find?_isSome.mpr ⟨n, hn, ?_⟩)
      exact beq_self_eq_true n.id
    have id : m.id = n.id := by simpa using List.find?_some found
    rw [found, distinct m (List.mem_of_find?_eq_some found) n hn id]
  · intro finds m hm n hn same
    have found := finds m hm
    rw [same, finds n hn] at found
    exact (Option.some.inj found).symm

theorem Knows.eq_of_id_eq (distinct : g.IdsDistinct) {m n : Node} (hm : g.Knows m) (hn : g.Knows n)
    (same : m.id = n.id) : m.name = n.name := by
  obtain ⟨m', hm', name, id⟩ := hm
  obtain ⟨n', hn', name', id'⟩ := hn
  obtain rfl := idsDistinct_iff.mp distinct m' hm' n' hn' (id.trans (same.trans id'.symm))
  exact name.symm.trans name'

theorem Heir.idsDistinct (heir : g.Heir g') (bound : ∀ n ∈ g.nodes, n.id ≤ g.sequence)
    (distinct : g.IdsDistinct) : g'.IdsDistinct := by
  refine idsDistinct_iff.mpr fun m hm n hn same => Records.eq_of_name_eq hm hn ?_
  cases heir with
  | kept _ known => exact (known m hm).eq_of_id_eq distinct (known n hn) same
  | grown new _ next id _ known =>
    -- a record that was known has an id within the old sequence, the new one has not
    have fresh : ∀ k, g.Knows k → k.id ≠ new.id := by
      rintro k ⟨k', hk', -, hid⟩ clash
      have low := bound k' hk'
      rw [hid, clash, id] at low
      exact UInt32.not_lt.mpr low (Counter.lt_succ next)
    rcases known m hm with rfl | hm' <;> rcases known n hn with rfl | hn'
    · rfl
    · exact absurd same.symm (fresh n hn')
    · exact absurd same (fresh m hm')
    · exact hm'.eq_of_id_eq distinct hn' same

theorem Reachable.idsDistinct_after (h : g.Reachable) (distinct : g.IdsDistinct) (deeds : List Deed) :
    (g.after deeds).IdsDistinct := by
  induction deeds generalizing g with
  | nil => exact distinct
  | cons deed rest ih =>
    have wf := h.wellFormed
    exact ih (deed.reachable h) ((deed.heir wf).idsDistinct wf.id_le distinct)

/-- The ids of a group that has been read are those that its tokens spell. -/
theorem map_readId_tail {tokens : List (List UInt8)} (h : ofTokens tokens = .ok g) :
    tokens.tail.map (Node.readId.token 0) = (g.nodes.map Node.id).map Except.ok := by
  obtain ⟨-, writable, rfl⟩ := wellFormed_of_ofTokens h
  rw [List.tail_cons, List.map_map, List.map_map]
  exact List.map_congr_left fun n hn => Node.readId_token (writable.records n hn) 0

/-- Let tokens be read as a group. Every token behind the header spells an id. If these ids differ
from each other, then looking up the id of a record finds that record, at first and after any
deeds; if they do not, there is a record that its id does not find. -/
theorem ids_identify_iff_tokens_differ {tokens : List (List UInt8)} (h : ofTokens tokens = .ok g) :
    ∃ ids : List UInt32, tokens.tail.map (Node.readId.token 0) = ids.map Except.ok ∧
      (ids.Nodup → ∀ deeds, (g.after deeds).IdsDistinct ∧
        ∀ n ∈ (g.after deeds).nodes, (g.after deeds).findId? n.id = some n) ∧
      (¬ ids.Nodup → ∃ n ∈ g.nodes, g.findId? n.id ≠ some n) := by
  refine ⟨g.nodes.map Node.id, map_readId_tail h, fun distinct deeds => ?_, fun shared => ?_⟩
  · obtain ⟨stream, written⟩ := exists_streamAt_iff.mpr (wellFormed_of_ofTokens h).2.1
    have read : ofStream stream = .ok g :=
      ofStream_eq_ok_iff.mpr ⟨(wellFormed_of_ofTokens h).1, written⟩
    have later := (Reachable.read read).idsDistinct_after distinct deeds
    exact ⟨later, idsDistinct_iff_findId?.mp later⟩
  · obtain ⟨n, lost⟩ := not_forall.mp (mt idsDistinct_iff_findId?.mpr shared)
    exact ⟨n, Classical.not_imp.mp lost⟩

/-- The tokens of a group with two records, which have the given ids. -/
def pair (first second : UInt32) : List (List UInt8) :=
  [(Header.mk .v1 "g" Uuid.zero 2 2 2).bytes,
    (Node.mk "a" first .electable "h" 1 none false 1).bytes .v1,
    (Node.mk "b" second .electable "h" 2 none false 2).bytes .v1]

theorem differing_pair_identifies : ∃ g, ofTokens (pair 1 2) = .ok g ∧
    ∀ deeds, ∀ n ∈ (g.after deeds).nodes, (g.after deeds).findId? n.id = some n := by
  have read : ofTokens (pair 1 2) = .ok ⟨"g", Uuid.zero, .v1, 2, 2,
      (Records.empty.insert ⟨"a", 1, .electable, "h", 1, none, false, 1⟩).insert
        ⟨"b", 2, .electable, "h", 2, none, false, 2⟩⟩ := by decide +kernel
  obtain ⟨ids, spelled, identify, -⟩ := ids_identify_iff_tokens_differ read
  have differ : ids = [1, 2] := by
    apply List.map_injective_iff.mpr (fun _ _ => Except.ok.inj) (spelled.symm.trans _)
    decide +kernel
  exact ⟨_, read, fun deeds => (identify (by rw [differ]; decide) deeds).2⟩

/-- A stream whose two records have one id is read, and the id finds the first record only. -/
theorem shared_id_is_read : ∃ g, ofStream (TokenStream.encode (pair 1 1)) = .ok g ∧ ¬ g.IdsDistinct ∧
    ∃ m n, g.find? "a" = some m ∧ g.find? "b" = some n ∧ g.findId? n.id = some m ∧ m ≠ n := by
  refine ⟨⟨"g", Uuid.zero, .v1, 2, 2,
    (Records.empty.insert ⟨"a", 1, .electable, "h", 1, none, false, 1⟩).insert
      ⟨"b", 1, .electable, "h", 2, none, false, 2⟩⟩, by decide +kernel, by decide, _, _, rfl, rfl, rfl, ?_⟩
  decide

end Group

end Roster

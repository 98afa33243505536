import Roster.Proofs.Group.Conversion

/-!
# Declarations one after the other

A declaration at a format clears what the format cannot carry and keeps all else. What is cleared does
not come back, so two declarations in turn come to the second one alone with the first one's losses on
top. Secondary records are never dropped, so a first declaration does not help a second one through.
-/

namespace Roster

namespace Group

variable {g first : Group} {format other : FormatVersion}

theorem checkFormat_of_convert (declared : g.convert format = .ok first) (other : FormatVersion) :
    first.checkFormat other = g.checkFormat other := by
  obtain ⟨-, rfl⟩ := convert_eq_ok_iff.mp declared
  simp only [checkFormat, Records.secondaryCount_restrict]

/-- The second of two declarations is made as if it were the only one, and the first one's losses stay. -/
theorem convert_of_convert (declared : g.convert format = .ok first) (other : FormatVersion) :
    first.convert other =
      (g.convert other).map fun direct => { direct with records := direct.records.restrict format } := by
  rw [convert, checkFormat_of_convert declared, convert]
  obtain ⟨-, rfl⟩ := convert_eq_ok_iff.mp declared
  cases g.checkFormat other with
  | error e => rfl
  | ok done => simp only [Except.map, g.records.restrict_comm format other]

/-- The first of two declarations leaves no trace if it loses nothing that the second one keeps. -/
theorem convert_of_convert_eq (declared : g.convert format = .ok first)
    (carries : other.carriesSoftware = true → format.carriesSoftware = true) :
    first.convert other = g.convert other := by
  rw [convert, checkFormat_of_convert declared, convert]
  obtain ⟨-, rfl⟩ := convert_eq_ok_iff.mp declared
  simp only [g.records.restrict_restrict carries]

theorem forall₂_nodes_convert {g' : Group} (declared : g.convert format = .ok g') :
    List.Forall₂ (fun n n' => n' = n.restrict format) g.nodes g'.nodes := by
  obtain ⟨-, rfl⟩ := convert_eq_ok_iff.mp declared
  exact List.forall₂_map_right_iff.mpr (List.forall₂_same.mpr fun n _ => rfl)

/-- A group is declared at one format and then at another with the same errors as at the other one at
once. The result is the same but for software versions that the first format does not carry, and it is
the same altogether if the first format carries them or the second one does not. A declaration at the
group's own format changes nothing, and one at any format changes nothing but the format and, at the
oldest, the software versions of the records. -/
theorem declarations_compose {g : Group} (reachable : g.Reachable) :
    (∀ format other first, g.convert format = .ok first →
      (∀ e, first.convert other = .error e ↔ g.convert other = .error e) ∧
      (∀ direct, g.convert other = .ok direct →
        first.convert other = .ok { direct with records := direct.records.restrict format }) ∧
      (.v2 ≤ format ∨ other = .v1 → first.convert other = g.convert other)) ∧
    g.convert g.format = .ok g ∧
    ∀ format g', g.convert format = .ok g' →
      g'.name = g.name ∧ g'.uuid = g.uuid ∧ g'.change = g.change ∧ g'.sequence = g.sequence ∧
      g'.format = format ∧
      List.Forall₂ (fun n n' => n'.name = n.name ∧ n'.id = n.id ∧ n'.kind = n.kind ∧ n'.host = n.host ∧
        n'.port = n.port ∧ n'.removed = n.removed ∧ n'.change = n.change ∧
        n'.software = if format = .v1 then none else n.software) g.nodes g'.nodes := by
  refine ⟨fun format other first declared => ⟨fun e => ?_, fun direct done => ?_, fun lossless => ?_⟩,
    reachable.wellFormed.convert_self, fun format g' declared => ?_⟩
  · rw [convert_of_convert declared]
    cases g.convert other <;> simp [Except.map]
  · rw [convert_of_convert declared, done]
    rfl
  · refine convert_of_convert_eq declared fun carries => ?_
    rcases lossless with newer | rfl
    · exact decide_eq_true newer
    · exact absurd carries (by decide)
  · have nodes := forall₂_nodes_convert declared
    obtain ⟨-, rfl⟩ := convert_eq_ok_iff.mp declared
    refine ⟨rfl, rfl, rfl, rfl, rfl, nodes.imp ?_⟩
    rintro n _ rfl
    have carries : format.carriesSoftware = true ↔ format ≠ .v1 := by
      cases format <;> decide
    simp [Node.restrict_software, carries]

/-- The grown sample by way of the oldest format comes to the newest without its software versions. By way
of the newest it comes to the oldest as it does at once. -/
theorem grown_declarations_compose : grown.Reachable ∧ ∃ oldest newest,
    grown.convert .v1 = .ok oldest ∧ grown.convert .v3 = .ok newest ∧
      oldest.convert .v3 = .ok { newest with records := newest.records.restrict .v1 } ∧
      { newest with records := newest.records.restrict .v1 } ≠ newest ∧
      newest.convert .v1 = .ok oldest := by
  obtain ⟨compose, -⟩ := declarations_compose reachable_grown
  have plain : ∀ n ∈ grown.nodes, n.kind ≠ .secondary := by decide +kernel
  have declared : ∀ format, grown.convert format =
      .ok { grown with format := format, records := grown.records.restrict format } :=
    fun _ => convert_eq_ok_iff.mpr ⟨Or.inl plain, rfl⟩
  refine ⟨reachable_grown, _, _, declared .v1, declared .v3, ?_, ?_, ?_⟩
  · exact (compose _ _ _ (declared .v1)).2.1 _ (declared .v3)
  · decide +kernel
  · exact ((compose _ _ _ (declared .v3)).2.2 (Or.inr rfl)).trans (declared .v1)

end Group

end Roster

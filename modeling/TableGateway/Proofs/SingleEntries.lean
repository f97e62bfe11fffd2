import TableGateway.Proofs.Filters

-- The update of one entry. It is the update itself where a filter names the entry, and it is
-- refused where none does, so that it never changes all rows of a table.

namespace TableGateway

open Fallible

/-! ## Filters that name an entry -/

namespace Params

/-- A filter with a value is among the parameters: its key is no reserved key. -/
def HasFilter (params : Params) : Prop :=
  ∃ pair ∈ params.pairs, Text.lower pair.1 ∉ reservedKeys ∧ pair.2 ≠ ""

instance (params : Params) : Decidable params.HasFilter :=
  inferInstanceAs (Decidable (∃ _ ∈ _, _))

/-- Grouping neither loses a filter nor makes one up. -/
theorem fullFilters_ne_nil {params : Params} : params.fullFilters ≠ [] ↔ params.HasFilter := by
  constructor
  · intro h
    obtain ⟨pair, hmem⟩ := List.exists_mem_of_ne_nil _ h
    obtain ⟨hfilter, hvalue⟩ := List.mem_filter.mp hmem
    obtain ⟨hpair, hcolumn⟩ := List.mem_filter.mp (params.filters_perm.mem_iff.mp hfilter)
    exact ⟨pair, hpair, isColumnKey_iff.mp hcolumn, by simpa using hvalue⟩
  · rintro ⟨pair, hpair, hkey, hvalue⟩
    have hcolumn : pair ∈ params.columnPairs :=
      List.mem_filter.mpr ⟨hpair, isColumnKey_iff.mpr hkey⟩
    exact List.ne_nil_of_mem (List.mem_filter.mpr
      ⟨params.filters_perm.mem_iff.mpr hcolumn, by simpa using hvalue⟩)

end Params

namespace Request

/-- A request whose filters make sense has a clause exactly when one of them has a value. -/
theorem clauses_ne_nil {request : Request} {clauses : List Clause}
    (h : request.clauses = .ok clauses) : clauses ≠ [] ↔ request.params.HasFilter := by
  obtain ⟨conditions, hsets, rfl⟩ := conditions_of_clauses h
  have hlength := hsets.length_eq
  rw [← Params.fullFilters_ne_nil, ← List.length_pos_iff, ← List.length_pos_iff, List.length_map,
    hlength]

theorem whereText_of_ne_nil {clauses : List Clause} (h : clauses ≠ []) :
    Statement.whereText clauses = " where " ++ Text.joined " and " (clauses.map Clause.expr) := by
  rw [Statement.whereText, List.isEmpty_eq_false_iff.mpr h]
  rfl

/-! ## The law -/

/-- One entry is updated as all rows of the filters are, but only where there is a filter with a
value. Its statement then ends in a condition with a clause, and each clause is that of a filter.
What refuses the update refuses it, and an update without a filter is refused for that. -/
theorem one_entry_is_updated_only_behind_a_filter (request : Request) (table : String) :
    (∀ statement, request.updateSingleEntry table = .ok statement ↔
      request.update table = .ok statement ∧ request.params.HasFilter) ∧
    (∀ statement, request.updateSingleEntry table = .ok statement → ∃ row clauses,
      Payload.ofRequest request = .ok ⟨[row]⟩ ∧ clauses ≠ [] ∧
      statement = ⟨"update " ++ table ++ " set " ++
          Text.joined ", " ((Payload.columns ⟨[row]⟩).map fun c => c ++ " = ?") ++
          " where " ++ Text.joined " and " (clauses.map Clause.expr),
        (Payload.columns ⟨[row]⟩).map (Payload.cell row) ++ clauses.flatMap Clause.values⟩ ∧
      ∀ clause ∈ clauses, ∃ pair ∈ request.params.pairs, Text.lower pair.1 ∉ reservedKeys ∧
        Filter.parse pair.1 pair.2 = .ok (some clause)) ∧
    (∀ fault, request.update table = .error fault →
      request.updateSingleEntry table = .error fault) ∧
    (∀ statement, request.update table = .ok statement → ¬ request.params.HasFilter →
      request.updateSingleEntry table =
        .error (.badRequest "expect to specify primary key query")) := by
  refine ⟨fun statement => ?_, fun statement h => ?_,
    fun fault h => updateSingleEntry_eq_error.mpr (.inl h), fun statement h hnone => ?_⟩
  · rw [updateSingleEntry_eq_ok]
    refine and_congr_right fun h => ?_
    obtain ⟨_, clauses, _, _, hclauses, _⟩ := update_eq_ok.mp h
    rw [← clauses_ne_nil hclauses]
    constructor
    · rintro ⟨clauses', hclauses', hne⟩
      cases hclauses.symm.trans hclauses'
      exact hne
    · exact fun hne => ⟨clauses, hclauses, hne⟩
  · obtain ⟨hupdate, clauses, hclauses, hne⟩ := updateSingleEntry_eq_ok.mp h
    obtain ⟨row, clauses', hread, _, hclauses', rfl⟩ := update_eq_ok.mp hupdate
    cases hclauses.symm.trans hclauses'
    refine ⟨row, clauses, hread, hne, ?_, fun clause hmem => ?_⟩
    · rw [whereText_of_ne_nil hne, Statement.whereValues, ← String.append_assoc]
    · obtain ⟨pair, hpair, hparse, _, hkey⟩ := clause_has_its_column hclauses hmem
      exact ⟨pair, (List.mem_filter.mp hpair).1, hkey, hparse⟩
  · obtain ⟨_, clauses, _, _, hclauses, _⟩ := update_eq_ok.mp h
    have hempty : clauses = [] := by
      by_contra hne
      exact hnone ((clauses_ne_nil hclauses).mp hne)
    subst hempty
    exact updateSingleEntry_eq_error.mpr (.inr ⟨⟨statement, h⟩, hclauses, rfl⟩)

/-- Filters with a reserved key or without a value name no entry. -/
example : ¬ Params.HasFilter ⟨[("Limit", "eq.1"), ("id", "")]⟩ := by
  decide

end Request

end TableGateway

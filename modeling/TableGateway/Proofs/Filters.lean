import TableGateway.Proofs.Cutting
import TableGateway.Proofs.Grouping
import TableGateway.Proofs.Statements

-- The laws of filters. Each filter of a request that is not empty becomes one
-- condition on its own column, and a request is refused if one of them makes no
-- sense. In what order filters come in a request changes the order of conditions
-- and nothing else.

namespace TableGateway

open Fallible

/-! ## What a clause says -/

/-- A condition on a column: that it compares with a value, or that it is one of several. -/
inductive Condition where
  | compares (column : String) (operator : Operator) (value : Json.Value)
  | isOneOf (column : String) (values : List Json.Value)

namespace Condition

/-- The column that a condition is about. -/
def column : Condition → String
  | compares column _ _ => column
  | isOneOf column _ => column

/-- A condition as a clause, with a place for each value. -/
def clause : Condition → Clause
  | compares column operator value => ⟨column ++ " " ++ operator.sql ++ " ?", [value]⟩
  | isOneOf column values => ⟨column ++ " IN (" ++ Filter.places values.length ++ ")", values⟩

/-- The text of a clause begins with its column. -/
theorem expr_clause (condition : Condition) :
    ∃ rest, condition.clause.expr = condition.column ++ " " ++ rest := by
  cases condition with
  | compares name operator value =>
    refine ⟨operator.sql ++ " ?", ?_⟩
    simp [clause, column, String.append_assoc]
  | isOneOf name values =>
    refine ⟨"IN (" ++ Filter.places values.length ++ ")", ?_⟩
    simp only [clause, column, String.append_assoc]
    rfl

end Condition

/-! ## What a filter says -/

theorem Operator.ofName?_eq_some {name : String} {operator : Operator} :
    Operator.ofName? name = some operator ↔ name = operator.name := by
  constructor
  · intro h
    have hname := List.find?_some h
    exact (beq_iff_eq.mp hname).symm
  · rintro rfl
    cases operator <;> decide

theorem Operator.eq_of_name_eq {operator other : Operator} (h : operator.name = other.name) :
    operator = other := by
  have hread := Operator.ofName?_eq_some.mpr h
  rw [Operator.ofName?_eq_some.mpr rfl] at hread
  exact Option.some.inj hread

/-- The condition on a column that an operator makes of its operand. Most compare with the
operand as a text, `is` with the value that the operand names, and `in` looks through the
values that the operand lists. -/
inductive Operator.Makes (column : String) : Operator → String → Condition → Prop where
  | compares {operator : Operator} {operand : String}
      (simple : operator ≠ .isIn ∧ operator ≠ .is) :
      Makes column operator operand (.compares column operator (.string operand))
  | names {operand : String} {value : Json.Value} (named : Filter.isValue? operand = some value) :
      Makes column .is operand (.compares column .is value)
  | lists {operand : String} {values : List Json.Value}
      (listed : Json.readValues (Text.bytes (Filter.listText operand)) = .ok values)
      (some : values ≠ []) :
      Makes column .isIn operand (.isOneOf column values)

theorem Operator.Makes.column_eq {column operand : String} {operator : Operator}
    {condition : Condition} (h : operator.Makes column operand condition) :
    condition.column = column := by
  cases h <;> rfl

namespace Filter

/-- The value of a filter with an operator and its operand. -/
def written (operator : Operator) (operand : String) : String :=
  operator.name ++ "." ++ operand

theorem written_ne_empty (operator : Operator) (operand : String) :
    written operator operand ≠ "" := by
  simp [written]

/-- A filter sets a condition. -/
def Sets (pair : String × String) (condition : Condition) : Prop :=
  ∃ operator operand, pair.2 = written operator operand ∧ operand ≠ "" ∧
    operator.Makes pair.1 operand condition

theorem inClause_eq_ok {column operand : String} {clause : Clause} :
    inClause column operand = .ok clause ↔ ∃ condition : Condition,
      Operator.isIn.Makes column operand condition ∧ condition.clause = clause := by
  unfold inClause
  constructor
  · intro h
    split at h
    · cases h
    · cases h
    · rename_i values hne hread
      cases h
      exact ⟨.isOneOf column values, .lists hread hne, rfl⟩
  · rintro ⟨condition, hmakes, rfl⟩
    cases hmakes with
    | compares simple => exact absurd rfl simple.1
    | @lists _ values listed some =>
      rcases values with _ | ⟨value, rest⟩
      · exact absurd rfl some
      · simp [listed, Condition.clause]

theorem isClause_eq_ok {column operand : String} {clause : Clause} :
    isClause column operand = .ok clause ↔ ∃ condition : Condition,
      Operator.is.Makes column operand condition ∧ condition.clause = clause := by
  have htext : column ++ " IS ?" = column ++ " " ++ Operator.is.sql ++ " ?" := by
    simp [Operator.sql, String.append_assoc]
  unfold isClause
  constructor
  · intro h
    split at h
    · rename_i value hvalue
      cases h
      exact ⟨.compares column .is value, .names hvalue, by rw [htext]; rfl⟩
    · cases h
  · rintro ⟨condition, hmakes, rfl⟩
    cases hmakes with
    | compares simple => exact absurd rfl simple.2
    | names named => simp [named, htext, Condition.clause]

theorem clause_eq_ok {operator : Operator} {column operand : String} {clause : Clause} :
    Filter.clause operator column operand = .ok clause ↔ ∃ condition : Condition,
      operator.Makes column operand condition ∧ condition.clause = clause := by
  -- Two operators have clauses of their own, and all others share one form.
  by_cases hin : operator = .isIn
  · subst hin
    change inClause column operand = .ok clause ↔ _
    exact inClause_eq_ok
  · by_cases his : operator = .is
    · subst his
      change isClause column operand = .ok clause ↔ _
      exact isClause_eq_ok
    · have hclause : Filter.clause operator column operand =
          .ok (Condition.compares column operator (.string operand)).clause := by
        unfold Filter.clause
        split
        · exact absurd rfl hin
        · exact absurd rfl his
        · rfl
      rw [hclause]
      constructor
      · intro h
        cases h
        exact ⟨_, .compares ⟨hin, his⟩, rfl⟩
      · rintro ⟨condition, hmakes, rfl⟩
        cases hmakes with
        | compares => rfl
        | names => exact absurd rfl his
        | lists => exact absurd rfl hin

/-- No name of an operator holds a point, so the first point of a filter is the one after it. -/
theorem point_not_mem_name (operator : Operator) : '.' ∉ operator.name.toList := by
  cases operator <;> decide

theorem cutAt_written {raw name operand : String} {operator : Operator}
    (h : Operator.ofName? name = some operator) :
    Text.cutAt '.' raw = some (name, operand) ↔ raw = written operator operand := by
  obtain rfl := Operator.ofName?_eq_some.mp h
  rw [Text.cutAt_eq_some, ← String.toList_inj, written]
  simp [point_not_mem_name]

/-- A filter that names an operator becomes what that makes of its operand. -/
theorem parse_written {column operand : String} {operator : Operator} (hoperand : operand ≠ "") :
    parse column (written operator operand) = (Filter.clause operator column operand).map some := by
  have hname : Operator.ofName? operator.name = some operator := Operator.ofName?_eq_some.mpr rfl
  have hcut : Text.cutAt '.' (written operator operand) = some (operator.name, operand) :=
    (cutAt_written hname).mpr rfl
  rw [parse, if_neg (written_ne_empty operator operand), hcut]
  simp only [if_neg hoperand, hname]

/-- A filter has a clause when its value is an operator, a point and an operand that the
operator takes. -/
theorem parse_eq_ok_some {column raw : String} {clause : Clause} :
    parse column raw = .ok (some clause) ↔
      ∃ condition : Condition, Sets (column, raw) condition ∧ condition.clause = clause := by
  constructor
  · intro h
    unfold parse at h
    split at h
    · cases h
    · split at h
      · cases h
      · rename_i name operand hcut
        split at h
        · cases h
        · rename_i hoperand
          split at h
          · cases h
          · rename_i operator hname
            obtain ⟨c, hc, heq⟩ := map_eq_ok.mp h
            cases heq
            obtain ⟨condition, hmakes, hclause⟩ := clause_eq_ok.mp hc
            exact ⟨condition, ⟨operator, operand, (cutAt_written hname).mp hcut, hoperand, hmakes⟩,
              hclause⟩
  · rintro ⟨condition, ⟨operator, operand, rfl, hoperand, hmakes⟩, hclause⟩
    rw [parse_written hoperand, clause_eq_ok.mpr ⟨condition, hmakes, hclause⟩]
    rfl

/-- A filter without a value has no clause, and every other filter has one or is wrong. -/
theorem parse_eq_ok_none {column raw : String} : parse column raw = .ok none ↔ raw = "" := by
  unfold parse
  constructor
  · intro h
    split at h
    · assumption
    · split at h
      · cases h
      · split at h
        · cases h
        · split at h
          · cases h
          · obtain ⟨c, _, heq⟩ := map_eq_ok.mp h
            cases heq
  · intro h
    simp [h]

end Filter

/-! ## The clauses of a request -/

/-- The clause of a filter, where it has one. -/
def Filter.clauseOf? (pair : String × String) : Option Clause :=
  (Filter.parse pair.1 pair.2).toOption.join

/-- A filter makes sense. -/
def Filter.Sound (pair : String × String) : Prop :=
  ∃ clause?, Filter.parse pair.1 pair.2 = .ok clause?

theorem Filter.filterMap_clauseOf? {pairs : List (String × String)} {parsed : List (Option Clause)}
    (h : List.Forall₂ (fun pair clause? => Filter.parse pair.1 pair.2 = .ok clause?) pairs parsed) :
    parsed.filterMap id = pairs.filterMap Filter.clauseOf? := by
  induction h with
  | nil => rfl
  | @cons pair clause? pairs parsed hparse _ ih =>
    have hclause : Filter.clauseOf? pair = clause? := by
      simp [Filter.clauseOf?, hparse, Except.toOption]
    rw [List.filterMap_cons, List.filterMap_cons, hclause, ih]
    rfl

/-- The filters with a value, in the order of their groups. -/
def Params.fullFilters (params : Params) : List (String × String) :=
  params.filters.filter fun pair => pair.2 ≠ ""

theorem Filter.conditions_of_parsed {pairs : List (String × String)} {parsed : List (Option Clause)}
    (h : List.Forall₂ (fun pair clause? => Filter.parse pair.1 pair.2 = .ok clause?) pairs parsed) :
    ∃ conditions : List Condition,
      List.Forall₂ Filter.Sets (pairs.filter fun pair => pair.2 ≠ "") conditions ∧
      parsed.filterMap id = conditions.map Condition.clause := by
  induction h with
  | nil => exact ⟨[], .nil, rfl⟩
  | @cons pair clause? pairs parsed hparse _ ih =>
    obtain ⟨conditions, hsets, hclauses⟩ := ih
    cases clause? with
    | none =>
      have hempty : pair.2 = "" := Filter.parse_eq_ok_none.mp hparse
      exact ⟨conditions, by simpa [hempty] using hsets, by simpa using hclauses⟩
    | some clause =>
      have hfull : pair.2 ≠ "" := fun h => by
        cases (Filter.parse_eq_ok_none.mpr h).symm.trans hparse
      obtain ⟨condition, hset, rfl⟩ := Filter.parse_eq_ok_some.mp hparse
      refine ⟨condition :: conditions, ?_, by simpa using hclauses⟩
      rw [List.filter_cons_of_pos (by simpa using hfull)]
      exact .cons hset hsets

namespace Request

/-- The clauses are those of the conditions that the filters set, one for each filter with a
value. -/
theorem conditions_of_clauses {request : Request} {clauses : List Clause}
    (h : request.clauses = .ok clauses) : ∃ conditions : List Condition,
      List.Forall₂ Filter.Sets request.params.fullFilters conditions ∧
      clauses = conditions.map Condition.clause := by
  obtain ⟨parsed, hparsed, rfl⟩ := map_eq_ok.mp h
  exact Filter.conditions_of_parsed (mapM_eq_ok.mp hparsed)

/-- The clauses are those of the grouped filters, in their order. -/
theorem clauses_eq_ok {request : Request} {clauses : List Clause} :
    request.clauses = .ok clauses ↔ (∀ pair ∈ request.params.filters, Filter.Sound pair) ∧
      clauses = request.params.filters.filterMap Filter.clauseOf? := by
  unfold Request.clauses
  rw [map_eq_ok]
  constructor
  · rintro ⟨parsed, hparsed, rfl⟩
    exact ⟨mapM_succeeds.mp ⟨parsed, hparsed⟩, Filter.filterMap_clauseOf? (mapM_eq_ok.mp hparsed)⟩
  · rintro ⟨hsound, rfl⟩
    obtain ⟨parsed, hparsed⟩ := mapM_succeeds.mpr hsound
    exact ⟨parsed, hparsed, Filter.filterMap_clauseOf? (mapM_eq_ok.mp hparsed)⟩

theorem clauses_eq_error {request : Request} {fault : Fault} :
    request.clauses = .error fault ↔ ∃ before pair after,
      request.params.filters = before ++ pair :: after ∧
      (∀ earlier ∈ before, Filter.Sound earlier) ∧ Filter.parse pair.1 pair.2 = .error fault := by
  unfold Request.clauses
  rw [map_eq_error, mapM_eq_error]
  rfl

theorem forall_mem_filters {request : Request} {p : String × String → Prop} :
    (∀ pair ∈ request.params.filters, p pair) ↔ ∀ pair ∈ request.params.columnPairs, p pair :=
  forall_congr' fun _ => imp_congr_left request.params.filters_perm.mem_iff

/-- Each clause is about the column of a filter of the request. -/
theorem clause_has_its_column {request : Request} {clauses : List Clause} {clause : Clause}
    (h : request.clauses = .ok clauses) (hmem : clause ∈ clauses) :
    ∃ pair ∈ request.params.columnPairs, Filter.parse pair.1 pair.2 = .ok (some clause) ∧
      (∃ rest, clause.expr = pair.1 ++ " " ++ rest) ∧ Text.lower pair.1 ∉ reservedKeys := by
  obtain ⟨hsound, rfl⟩ := clauses_eq_ok.mp h
  obtain ⟨pair, hpair, hclause⟩ := List.mem_filterMap.mp hmem
  obtain ⟨clause?, hparse⟩ := hsound pair hpair
  obtain rfl : clause? = some clause := by
    simpa [Filter.clauseOf?, hparse, Except.toOption] using hclause
  have hcolumn := request.params.filters_perm.mem_iff.mp hpair
  obtain ⟨condition, ⟨operator, operand, _, _, hmakes⟩, rfl⟩ := Filter.parse_eq_ok_some.mp hparse
  have hkey := Params.isColumnKey_iff.mp (List.mem_filter.mp hcolumn).2
  refine ⟨pair, hcolumn, hparse, ?_, hkey⟩
  rw [← hmakes.column_eq]
  exact condition.expr_clause

/-- Requests whose filters are the same in another order have the same clauses in another
order. -/
theorem clauses_perm {request other : Request} {clauses : List Clause}
    (perm : other.params.columnPairs.Perm request.params.columnPairs)
    (h : request.clauses = .ok clauses) :
    ∃ clauses', other.clauses = .ok clauses' ∧ clauses'.Perm clauses := by
  obtain ⟨hsound, rfl⟩ := clauses_eq_ok.mp h
  have hperm : other.params.filters.Perm request.params.filters :=
    other.params.filters_perm.trans (perm.trans request.params.filters_perm.symm)
  have hsound' : ∀ pair ∈ other.params.filters, Filter.Sound pair := fun pair hpair =>
    hsound pair (hperm.mem_iff.mp hpair)
  exact ⟨_, clauses_eq_ok.mpr ⟨hsound', rfl⟩, hperm.filterMap _⟩

/-- The clauses depend on nothing but the pairs whose keys name columns. -/
theorem clauses_congr {request other : Request}
    (columns : other.params.columnPairs = request.params.columnPairs) :
    other.clauses = request.clauses := by
  rw [Request.clauses, Request.clauses, Params.filters_eq_grouped,
    Params.filters_eq_grouped request.params, columns]

/-! ## The laws -/

/-- No filter is lost, doubled or put on another column. The filters of a request are taken
key by key, in the order in which the keys come up, and those of one key in their order. They
all have to make sense, and the first one that does not is told. The clauses are those of the
filters, and their order is all that the order of the filters decides. -/
theorem no_filter_is_lost (request : Request) :
    ∃ keys : List String,
      keys.Pairwise (fun a b => request.params.firstPlace a < request.params.firstPlace b) ∧
      (∀ key, key ∈ keys ↔ ∃ pair ∈ request.params.columnPairs, pair.1 = key) ∧
      (keys.flatMap request.params.block).Perm request.params.columnPairs ∧
      ((∃ clauses, request.clauses = .ok clauses) ↔
        ∀ pair ∈ request.params.columnPairs, Filter.Sound pair) ∧
      (∀ clauses, request.clauses = .ok clauses →
        clauses = keys.flatMap (fun key => (request.params.block key).filterMap Filter.clauseOf?) ∧
        clauses.Perm (request.params.columnPairs.filterMap Filter.clauseOf?) ∧
        ∀ clause ∈ clauses, ∃ pair ∈ request.params.columnPairs,
          Filter.parse pair.1 pair.2 = .ok (some clause) ∧
          (∃ rest, clause.expr = pair.1 ++ " " ++ rest) ∧ Text.lower pair.1 ∉ reservedKeys) ∧
      (∀ fault, request.clauses = .error fault ↔ ∃ before pair after,
        keys.flatMap request.params.block = before ++ pair :: after ∧
        (∀ earlier ∈ before, Filter.Sound earlier) ∧ Filter.parse pair.1 pair.2 = .error fault) ∧
      ∀ other : Request, other.params.columnPairs.Perm request.params.columnPairs →
        ∀ clauses, request.clauses = .ok clauses → ∃ clauses',
          other.clauses = .ok clauses' ∧ clauses'.Perm clauses ∧
          ∀ known kind table, kind ≠ .insert →
            (∀ statement, request.compile known kind table = .ok statement →
              statement.IsAbout clauses) ∧
            (∀ statement, other.compile known kind table = .ok statement →
              statement.IsAbout clauses') := by
  refine ⟨request.params.columnKeys, request.params.columnKeys_pairwise,
    fun key => Params.mem_columnKeys, ?_⟩
  rw [← Params.filters_eq]
  refine ⟨request.params.filters_perm, ?_, ?_, fun fault => clauses_eq_error, ?_⟩
  · constructor
    · rintro ⟨clauses, h⟩
      exact forall_mem_filters.mp (clauses_eq_ok.mp h).1
    · intro hsound
      exact ⟨_, clauses_eq_ok.mpr ⟨forall_mem_filters.mpr hsound, rfl⟩⟩
  · intro clauses h
    refine ⟨?_, ?_, fun clause hmem => clause_has_its_column h hmem⟩
    · rw [(clauses_eq_ok.mp h).2, Params.filters_eq, List.filterMap_flatMap]
    · rw [(clauses_eq_ok.mp h).2]
      exact request.params.filters_perm.filterMap _
  · intro other perm clauses h
    obtain ⟨clauses', h', hperm⟩ := clauses_perm perm h
    refine ⟨clauses', h', hperm, fun known kind table hkind => ⟨?_, ?_⟩⟩
    · intro statement hstatement
      obtain ⟨found, hfound, habout⟩ := compile_isAbout hkind hstatement
      cases h.symm.trans hfound
      exact habout
    · intro statement hstatement
      obtain ⟨found, hfound, habout⟩ := compile_isAbout hkind hstatement
      cases h'.symm.trans hfound
      exact habout

end Request

end TableGateway

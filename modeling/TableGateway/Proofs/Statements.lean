import TableGateway.Proofs.Fallible
import TableGateway.Statement.Compile

-- What a request becomes, kind by kind: when there is a statement, and which
-- one it is. All later laws of statements start from these.

namespace TableGateway

open Fallible

namespace Request

/-! ## Statements that read -/

theorem select_eq_ok {request : Request} {table : String} {statement : Statement} :
    request.select table = .ok statement ↔ ∃ clauses items page,
      request.clauses = .ok clauses ∧ request.orderItems = .ok items ∧
      Page.ofRequest request = .ok page ∧
      statement = ⟨"select " ++ Text.joined ", " request.resultColumns ++ " from " ++ table ++
        Statement.whereText clauses ++ orderText items ++ pageText page,
        Statement.whereValues clauses⟩ := by
  unfold select
  simp only [bind_eq_ok, pure_eq_ok, Statement.restricted, List.nil_append]
  constructor
  · rintro ⟨clauses, hclauses, items, hitems, page, hpage, rfl⟩
    exact ⟨clauses, items, page, hclauses, hitems, hpage, rfl⟩
  · rintro ⟨clauses, items, page, hclauses, hitems, hpage, rfl⟩
    exact ⟨clauses, hclauses, items, hitems, page, hpage, rfl⟩

/-- A select is refused for its filters first, then for its order, and for its page last. -/
theorem select_eq_error {request : Request} {table : String} {fault : Fault} :
    request.select table = .error fault ↔ request.clauses = .error fault ∨
      ∃ clauses, request.clauses = .ok clauses ∧ (request.orderItems = .error fault ∨
        ∃ items, request.orderItems = .ok items ∧ Page.ofRequest request = .error fault) := by
  unfold select
  simp only [bind_eq_error, pure_ne_error, and_false, exists_false, or_false]

theorem exactCount_eq_ok {request : Request} {table : String} {statement : Statement} :
    request.exactCount table = .ok statement ↔ ∃ clauses, request.clauses = .ok clauses ∧
      statement = ⟨"select count(1) from " ++ table ++ Statement.whereText clauses,
        Statement.whereValues clauses⟩ := by
  unfold exactCount
  simp only [bind_eq_ok, pure_eq_ok, Statement.restricted, List.nil_append]

theorem exactCount_eq_error {request : Request} {table : String} {fault : Fault} :
    request.exactCount table = .error fault ↔ request.clauses = .error fault := by
  unfold exactCount
  simp only [bind_eq_error, pure_ne_error, and_false, exists_false, or_false]

theorem delete_eq_ok {request : Request} {table : String} {statement : Statement} :
    request.delete table = .ok statement ↔ ∃ clauses, request.clauses = .ok clauses ∧
      statement = ⟨"delete from " ++ table ++ Statement.whereText clauses,
        Statement.whereValues clauses⟩ := by
  unfold delete
  simp only [bind_eq_ok, pure_eq_ok, Statement.restricted, List.nil_append]

theorem delete_eq_error {request : Request} {table : String} {fault : Fault} :
    request.delete table = .error fault ↔ request.clauses = .error fault := by
  unfold delete
  simp only [bind_eq_error, pure_ne_error, and_false, exists_false, or_false]

/-! ## Statements that write -/

/-- An update takes a payload of one row that names a column. -/
theorem updatePayload_eq_ok {request : Request} {payload : Payload} :
    request.updatePayload = .ok payload ↔ ∃ row, payload = ⟨[row]⟩ ∧
      Payload.ofRequest request = .ok payload ∧ payload.columns ≠ [] := by
  unfold updatePayload
  simp only [bind_eq_ok]
  constructor
  · rintro ⟨⟨rows⟩, hread, h⟩
    rcases rows with _ | ⟨row, _ | ⟨row', rest⟩⟩
    · simp at h
    · by_cases hcols : Payload.columns ⟨[row]⟩ = []
      · simp [hcols] at h
      · simp only [List.isEmpty_cons, List.length_singleton, List.isEmpty_iff, hcols,
          Bool.false_eq_true, if_false, Nat.lt_irrefl, gt_iff_lt, pure_eq_ok] at h
        subst h
        exact ⟨row, rfl, hread, hcols⟩
    · simp at h
  · rintro ⟨row, rfl, hread, hcols⟩
    exact ⟨_, hread, by simp [hcols, pure, Except.pure]⟩

theorem assignments_eq (table : String) (row : Json.Members) :
    assignments table ⟨[row]⟩ = ⟨"update " ++ table ++ " set " ++
        Text.joined ", " ((Payload.columns ⟨[row]⟩).map fun c => c ++ " = ?"),
      (Payload.columns ⟨[row]⟩).map (Payload.cell row)⟩ := by
  simp [assignments, Payload.cells]

theorem update_eq_ok {request : Request} {table : String} {statement : Statement} :
    request.update table = .ok statement ↔ ∃ row clauses,
      Payload.ofRequest request = .ok ⟨[row]⟩ ∧ Payload.columns ⟨[row]⟩ ≠ [] ∧
      request.clauses = .ok clauses ∧
      statement = ⟨"update " ++ table ++ " set " ++
          Text.joined ", " ((Payload.columns ⟨[row]⟩).map fun c => c ++ " = ?") ++
          Statement.whereText clauses,
        (Payload.columns ⟨[row]⟩).map (Payload.cell row) ++ Statement.whereValues clauses⟩ := by
  unfold update
  simp only [bind_eq_ok, pure_eq_ok, updatePayload_eq_ok]
  constructor
  · rintro ⟨_, ⟨row, rfl, hread, hcols⟩, clauses, hclauses, rfl⟩
    exact ⟨row, clauses, hread, hcols, hclauses, by rw [assignments_eq]; rfl⟩
  · rintro ⟨row, clauses, hread, hcols, hclauses, rfl⟩
    exact ⟨_, ⟨row, rfl, hread, hcols⟩, clauses, hclauses, by rw [assignments_eq]; rfl⟩

/-- The update of one entry is the update, where there is a clause. -/
theorem updateSingleEntry_eq_ok {request : Request} {table : String} {statement : Statement} :
    request.updateSingleEntry table = .ok statement ↔
      request.update table = .ok statement ∧
        ∃ clauses, request.clauses = .ok clauses ∧ clauses ≠ [] := by
  unfold updateSingleEntry update
  simp only [bind_eq_ok]
  constructor
  · rintro ⟨payload, hpayload, clauses, hclauses, h⟩
    cases clauses with
    | nil => simp at h
    | cons clause rest => exact ⟨⟨payload, hpayload, _, hclauses, h⟩, _, hclauses, by simp⟩
  · rintro ⟨⟨payload, hpayload, clauses, hclauses, h⟩, clauses', hclauses', hne⟩
    obtain rfl : clauses = clauses' := by simpa [hclauses] using hclauses'
    exact ⟨payload, hpayload, clauses, hclauses, by simpa [hne] using h⟩

theorem update_eq_error {request : Request} {table : String} {fault : Fault} :
    request.update table = .error fault ↔ request.updatePayload = .error fault ∨
      ∃ payload, request.updatePayload = .ok payload ∧ request.clauses = .error fault := by
  unfold update
  simp only [bind_eq_error, pure_ne_error, and_false, exists_false, or_false]

/-- The update of one entry is refused where the update is, and where there is no clause. -/
theorem updateSingleEntry_eq_error {request : Request} {table : String} {fault : Fault} :
    request.updateSingleEntry table = .error fault ↔ request.update table = .error fault ∨
      (∃ statement, request.update table = .ok statement) ∧ request.clauses = .ok [] ∧
        fault = .badRequest "expect to specify primary key query" := by
  rw [update_eq_error]
  unfold updateSingleEntry update
  simp only [bind_eq_error, bind_eq_ok]
  constructor
  · rintro (hpayload | ⟨payload, hpayload, hclauses | ⟨clauses, hclauses, h⟩⟩)
    · exact .inl (.inl hpayload)
    · exact .inl (.inr ⟨payload, hpayload, hclauses⟩)
    · cases clauses with
      | nil =>
        cases h
        exact .inr ⟨⟨_, payload, hpayload, [], hclauses, rfl⟩, hclauses, rfl⟩
      | cons clause rest => exact absurd h pure_ne_error
  · rintro ((hpayload | ⟨payload, hpayload, hclauses⟩) |
      ⟨⟨_, payload, hpayload, _⟩, hclauses, rfl⟩)
    · exact .inl hpayload
    · exact .inr ⟨payload, hpayload, .inl hclauses⟩
    · exact .inr ⟨payload, hpayload, .inr ⟨[], hclauses, rfl⟩⟩

theorem insertRows_text (table : String) (payload : Payload) :
    (insertRows table payload).text = "insert into " ++ table ++ " (" ++
      Text.joined ", " payload.columns ++ ") values " ++
      Text.joined ", " (List.replicate payload.rows.length (rowPlaces payload.columns.length)) :=
  rfl

/-- An insert takes a payload of rows that name a column. -/
theorem insertPayload_eq_ok {request : Request} {payload : Payload} :
    request.insertPayload = .ok payload ↔
      Payload.ofRequest request = .ok payload ∧ payload.rows ≠ [] ∧ payload.columns ≠ [] := by
  unfold insertPayload
  simp only [bind_eq_ok]
  constructor
  · rintro ⟨payload', hread, h⟩
    by_cases hrows : payload'.rows = []
    · simp [hrows] at h
    · by_cases hcols : payload'.columns = []
      · simp [hrows, hcols] at h
      · simp only [List.isEmpty_iff, hrows, hcols, if_false, pure_eq_ok] at h
        subst h
        exact ⟨hread, hrows, hcols⟩
  · rintro ⟨hread, hrows, hcols⟩
    exact ⟨payload, hread, by simp [hrows, hcols, pure, Except.pure]⟩

theorem insert_eq_ok {request : Request} {known : Option (List String)} {table : String}
    {statement : Statement} :
    request.insert known table = .ok statement ↔ ∃ preference payload suffix,
      Preference.ofRequest request = .ok preference ∧ request.insertPayload = .ok payload ∧
      Conflict.suffix request known preference.resolution payload.columns = .ok suffix ∧
      statement =
        ⟨(insertRows table payload).text ++ suffix, (insertRows table payload).values⟩ := by
  unfold insert
  simp only [bind_eq_ok, pure_eq_ok]
  constructor
  · rintro ⟨preference, hpreference, payload, hpayload, suffix, hsuffix, rfl⟩
    exact ⟨preference, payload, suffix, hpreference, hpayload, hsuffix, rfl⟩
  · rintro ⟨preference, payload, suffix, hpreference, hpayload, hsuffix, rfl⟩
    exact ⟨preference, hpreference, payload, hpayload, suffix, hsuffix, rfl⟩

end Request

/-! ## The condition of a statement -/

/-- A statement is about the rows that all clauses hold for. Their values are bound last. -/
def Statement.IsAbout (statement : Statement) (clauses : List Clause) : Prop :=
  ∃ head tail values, statement =
    ⟨head ++ Statement.whereText clauses ++ tail, values ++ Statement.whereValues clauses⟩

/-- All statements but inserts are about the rows of the request. -/
theorem Request.compile_isAbout {request : Request} {known : Option (List String)}
    {kind : StatementKind} {table : String} {statement : Statement} (hkind : kind ≠ .insert)
    (h : request.compile known kind table = .ok statement) :
    ∃ clauses, request.clauses = .ok clauses ∧ statement.IsAbout clauses := by
  have update {statement : Statement} (h : request.update table = .ok statement) :
      ∃ clauses, request.clauses = .ok clauses ∧ statement.IsAbout clauses := by
    obtain ⟨row, clauses, _, _, hclauses, rfl⟩ := update_eq_ok.mp h
    exact ⟨clauses, hclauses, _, "", _, by rw [String.append_empty]⟩
  cases kind with
  | insert => exact absurd rfl hkind
  | select =>
    obtain ⟨clauses, items, page, hclauses, _, _, rfl⟩ := select_eq_ok.mp h
    refine ⟨clauses, hclauses, "select " ++ Text.joined ", " request.resultColumns ++ " from " ++
      table, orderText items ++ pageText page, [], ?_⟩
    rw [← String.append_assoc]
    rfl
  | exactCount =>
    obtain ⟨clauses, hclauses, rfl⟩ := exactCount_eq_ok.mp h
    exact ⟨clauses, hclauses, _, "", [], by rw [String.append_empty]; rfl⟩
  | delete =>
    obtain ⟨clauses, hclauses, rfl⟩ := delete_eq_ok.mp h
    exact ⟨clauses, hclauses, _, "", [], by rw [String.append_empty]; rfl⟩
  | update => exact update h
  | updateSingleEntry => exact update (updateSingleEntry_eq_ok.mp h).1

/-! ## What a statement depends on -/

namespace StatementKind

/-- The parameters that a statement of a kind reads beside its filters. -/
def parameterNames : StatementKind → List String
  | .select => [selectKey, orderKey, limitKey, offsetKey]
  | .insert => [conflictKey]
  | .exactCount | .update | .updateSingleEntry | .delete => []

/-- The headers that a statement of a kind reads. -/
def headerNames : StatementKind → List String
  | .select => [Request.rangeName]
  | .insert => [Request.preferName, Request.contentTypeName]
  | .update | .updateSingleEntry => [Request.contentTypeName]
  | .exactCount | .delete => []

end StatementKind

section Dependence

variable {request request' : Request}

/-- A page depends on the header of ranges, the limit and the offset. -/
theorem Page.ofRequest_congr
    (range : request'.header? Request.rangeName = request.header? Request.rangeName)
    (limit : request'.params.given? limitKey = request.params.given? limitKey)
    (offset : request'.params.given? offsetKey = request.params.given? offsetKey) :
    Page.ofRequest request' = Page.ofRequest request := by
  have hparams : Page.ofParams request'.params = Page.ofParams request.params := by
    simp only [Page.ofParams, Page.number, limit, offset]
  unfold Page.ofRequest
  rw [range, hparams]

namespace Request

theorem insertPayload_congr (rows : Payload.ofRequest request' = Payload.ofRequest request) :
    request'.insertPayload = request.insertPayload := by
  rw [insertPayload, insertPayload, rows]

theorem updatePayload_congr (rows : Payload.ofRequest request' = Payload.ofRequest request) :
    request'.updatePayload = request.updatePayload := by
  rw [updatePayload, updatePayload, rows]

/-- A statement depends on the clauses of the filters, on the parameters and headers that its kind
reads, and on the rows of the payload where it takes some. -/
theorem compile_congr {kind : StatementKind}
    (filters : kind ≠ .insert → request'.clauses = request.clauses)
    (given : ∀ key ∈ kind.parameterNames, request'.params.given? key = request.params.given? key)
    (headers : ∀ name ∈ kind.headerNames, name ≠ contentTypeName →
      request'.header? name = request.header? name)
    (rows : contentTypeName ∈ kind.headerNames →
      Payload.ofRequest request' = Payload.ofRequest request)
    (known : Option (List String)) (table : String) :
    request'.compile known kind table = request.compile known kind table := by
  cases kind with
  | select =>
    have hcolumns : request'.resultColumns = request.resultColumns := by
      rw [resultColumns, resultColumns, given selectKey (by decide)]
    have hitems : request'.orderItems = request.orderItems := by
      rw [orderItems, orderItems, given orderKey (by decide)]
    have hpage : Page.ofRequest request' = Page.ofRequest request :=
      Page.ofRequest_congr (headers rangeName (by decide) (by decide)) (given limitKey (by decide))
        (given offsetKey (by decide))
    simp only [compile, select, filters (by decide), hcolumns, hitems, hpage]
  | exactCount => simp only [compile, exactCount, filters (by decide)]
  | insert =>
    have hwishes : Preference.ofRequest request' = Preference.ofRequest request := by
      unfold Preference.ofRequest
      rw [headers preferName (by decide) (by decide)]
    have hsuffix (resolution : Resolution) (columns : List String) :
        Conflict.suffix request' known resolution columns =
          Conflict.suffix request known resolution columns := by
      unfold Conflict.suffix Conflict.columns
      rw [given conflictKey (by decide)]
    simp only [compile, insert, hwishes, insertPayload_congr (rows (by decide)), hsuffix]
  | update =>
    simp only [compile, update, updatePayload_congr (rows (by decide)), filters (by decide)]
  | updateSingleEntry =>
    simp only [compile, updateSingleEntry, updatePayload_congr (rows (by decide)),
      filters (by decide)]
  | delete => simp only [compile, delete, filters (by decide)]

/-- A statement is the same for two requests with one body that say the same in what it reads. -/
theorem compile_of_same_readings {kind : StatementKind} (body : request'.body = request.body)
    (filters : kind ≠ .insert → request'.clauses = request.clauses)
    (given : ∀ key ∈ kind.parameterNames, request'.params.given? key = request.params.given? key)
    (headers : ∀ name ∈ kind.headerNames, request'.header? name = request.header? name)
    (known : Option (List String)) (table : String) :
    request'.compile known kind table = request.compile known kind table := by
  refine compile_congr filters given (fun name hname _ => headers name hname) ?_ known table
  intro takes
  unfold Payload.ofRequest
  rw [headers contentTypeName takes, body]

end Request

end Dependence

end TableGateway

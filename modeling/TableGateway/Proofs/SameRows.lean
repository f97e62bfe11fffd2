import TableGateway.Proofs.Statements

-- All statements of a request are about the same rows: they carry one condition
-- with one list of values, so what is counted is what is read, changed or removed.

namespace TableGateway.Request

/-- A statement that goes through shows that the clauses of the request make sense, and so
that its rows can be counted. -/
theorem exactCount_of_clauses {request : Request} {clauses : List Clause}
    (h : request.clauses = .ok clauses) (table : String) :
    request.exactCount table = .ok ⟨"select count(1) from " ++ table ++ Statement.whereText clauses,
      Statement.whereValues clauses⟩ :=
  exactCount_eq_ok.mpr ⟨clauses, h, rfl⟩

theorem delete_of_clauses {request : Request} {clauses : List Clause}
    (h : request.clauses = .ok clauses) (table : String) :
    request.delete table = .ok ⟨"delete from " ++ table ++ Statement.whereText clauses,
      Statement.whereValues clauses⟩ :=
  delete_eq_ok.mpr ⟨clauses, h, rfl⟩

/-- A request counts, reads, changes and removes the same rows. Counting and removing fail
together and with the same fault. Otherwise there are one condition and one list of values that
all statements of the request end in, but for the order and the page of a select, which bind
nothing. An update binds its new values first, one for each assignment. -/
theorem all_statements_are_about_the_same_rows (request : Request) (table : String) :
    (∀ fault, request.exactCount table = .error fault ↔ request.delete table = .error fault) ∧
    ((∃ count, request.exactCount table = .ok count) ↔
      ∃ removal, request.delete table = .ok removal) ∧
    (∀ rows, request.select table = .ok rows → ∃ count, request.exactCount table = .ok count) ∧
    (∀ change, request.update table = .ok change → ∃ count, request.exactCount table = .ok count) ∧
    ∀ count, request.exactCount table = .ok count → ∃ condition values,
      count = ⟨"select count(1) from " ++ table ++ condition, values⟩ ∧
      request.delete table = .ok ⟨"delete from " ++ table ++ condition, values⟩ ∧
      (∃ clauses, request.clauses = .ok clauses ∧
        condition = Statement.whereText clauses ∧ values = Statement.whereValues clauses) ∧
      (∀ rows, request.select table = .ok rows → ∃ items page,
        request.orderItems = .ok items ∧ Page.ofRequest request = .ok page ∧
        rows = ⟨"select " ++ Text.joined ", " request.resultColumns ++ " from " ++ table ++
          condition ++ (orderText items ++ pageText page), values⟩) ∧
      ∀ change, request.update table = .ok change ∨ request.updateSingleEntry table = .ok change →
        ∃ row, Payload.ofRequest request = .ok ⟨[row]⟩ ∧
          change = ⟨"update " ++ table ++ " set " ++
            Text.joined ", " ((Payload.columns ⟨[row]⟩).map fun c => c ++ " = ?") ++ condition,
            (Payload.columns ⟨[row]⟩).map (Payload.cell row) ++ values⟩ := by
  refine ⟨fun fault => exactCount_eq_error.trans delete_eq_error.symm, ?_, ?_, ?_, ?_⟩
  · constructor
    · rintro ⟨count, h⟩
      obtain ⟨clauses, hclauses, _⟩ := exactCount_eq_ok.mp h
      exact ⟨_, delete_of_clauses hclauses table⟩
    · rintro ⟨removal, h⟩
      obtain ⟨clauses, hclauses, _⟩ := delete_eq_ok.mp h
      exact ⟨_, exactCount_of_clauses hclauses table⟩
  · intro rows h
    obtain ⟨clauses, items, page, hclauses, _⟩ := select_eq_ok.mp h
    exact ⟨_, exactCount_of_clauses hclauses table⟩
  · intro change h
    obtain ⟨row, clauses, _, _, hclauses, _⟩ := update_eq_ok.mp h
    exact ⟨_, exactCount_of_clauses hclauses table⟩
  · intro count h
    obtain ⟨clauses, hclauses, rfl⟩ := exactCount_eq_ok.mp h
    refine ⟨Statement.whereText clauses, Statement.whereValues clauses, rfl,
      delete_of_clauses hclauses table, ⟨clauses, hclauses, rfl, rfl⟩, ?_, ?_⟩
    · intro rows hrows
      obtain ⟨clauses', items, page, hclauses', hitems, hpage, rfl⟩ := select_eq_ok.mp hrows
      cases hclauses.symm.trans hclauses'
      exact ⟨items, page, hitems, hpage, by rw [← String.append_assoc]⟩
    · intro change hchange
      have hupdate : request.update table = .ok change := by
        rcases hchange with h | h
        · exact h
        · exact (updateSingleEntry_eq_ok.mp h).1
      obtain ⟨row, clauses', hread, _, hclauses', rfl⟩ := update_eq_ok.mp hupdate
      cases hclauses.symm.trans hclauses'
      exact ⟨row, hread, rfl⟩

end TableGateway.Request

import TableGateway.Proofs.Conflicts
import TableGateway.Proofs.Ordered
import TableGateway.Proofs.Statements

-- The cells of an insert. Each cell of a payload goes to one place of the values, which its row
-- and its column tell, and so the rows can be read back from the statement.

namespace TableGateway

/-! ## Cells in a row -/

namespace Payload

theorem cell_of_not_mem {row : Json.Members} {c : String} (h : c ∉ row.names) :
    cell row c = .null := by
  have hnone : row.get? c = none := by
    unfold Json.Members.get?
    rw [Option.map_eq_none_iff, List.find?_eq_none]
    intro member hmem heq
    exact h (List.mem_map.mpr ⟨member, hmem, beq_iff_eq.mp heq⟩)
  rw [cell, hnone]
  rfl

/-- A row has the same cells as one that is made of its cells under columns with all its names.
Members that are null are the only ones that the two may not share. -/
theorem cell_of_cells {row : Json.Members} {columns : List String}
    (h : ∀ c ∈ row.names, c ∈ columns) :
    cell (columns.map fun c => (c, cell row c)) = cell row := by
  funext c
  by_cases hc : c ∈ columns
  · have hfind : (columns.map fun d => (d, cell row d)).find? (fun member => member.1 == c) =
        some (c, cell row c) := by
      rw [List.find?_map]
      have hfound : columns.find? (fun d => d == c) = some c := by
        have hsome : (columns.find? fun d => d == c).isSome :=
          List.find?_isSome.mpr ⟨c, hc, beq_self_eq_true c⟩
        obtain ⟨d, hd⟩ := Option.isSome_iff_exists.mp hsome
        have heq : d = c := by simpa using List.find?_some hd
        rw [hd, heq]
      exact congrArg (Option.map _) hfound
    rw [cell, Json.Members.get?, hfind]
    rfl
  · have hnames : c ∉ (Json.Members.names (columns.map fun d => (d, cell row d))) := by
      simpa [Json.Members.names] using hc
    rw [cell_of_not_mem hnames, cell_of_not_mem (mt (h c) hc)]

end Payload

/-! ## Rows side by side -/

theorem cells_length {columns : List String} {rows : List Json.Members} :
    (rows.flatMap fun row => columns.map (Payload.cell row)).length =
      rows.length * columns.length := by
  simp

/-- The cell of a row and a column stands after all cells of the rows before. -/
theorem cell_at {columns : List String} {rows : List Json.Members} {i j : Nat}
    {row : Json.Members} {c : String} (hrow : rows[i]? = some row) (hc : columns[j]? = some c) :
    (rows.flatMap fun row => columns.map (Payload.cell row))[i * columns.length + j]? =
      some (Payload.cell row c) := by
  have hj : j < columns.length := (List.getElem?_eq_some_iff.mp hc).1
  induction rows generalizing i with
  | nil => cases hrow
  | cons first rest ih =>
    rw [List.flatMap_cons]
    cases i with
    | zero =>
      cases hrow
      rw [Nat.zero_mul, Nat.zero_add, List.getElem?_append_left (by simpa using hj),
        List.getElem?_map, hc]
      rfl
    | succ i =>
      have hplace : (i + 1) * columns.length + j = columns.length + (i * columns.length + j) := by
        rw [Nat.succ_mul]
        omega
      rw [hplace, List.getElem?_append_right (by simp), List.length_map, Nat.add_sub_cancel_left]
      exact ih hrow

/-- The rows that values make up, as many values to a row as there are columns. -/
def rowsOf (columns : List String) : Nat → List Json.Value → List Json.Members
  | 0, _ => []
  | count + 1, values =>
    columns.zip (values.take columns.length) :: rowsOf columns count (values.drop columns.length)

theorem rowsOf_cells (columns : List String) (rows : List Json.Members) :
    rowsOf columns rows.length (rows.flatMap fun row => columns.map (Payload.cell row)) =
      rows.map fun row => columns.map fun c => (c, Payload.cell row c) := by
  induction rows with
  | nil => rfl
  | cons row rest ih =>
    have hfirst : columns.zip (columns.map (Payload.cell row)) =
        columns.map fun c => (c, Payload.cell row c) := by
      simpa using List.zip_map' (f := id) (g := Payload.cell row) (l := columns)
    have hlength : (columns.map (Payload.cell row)).length = columns.length := by simp
    rw [List.flatMap_cons, List.length_cons, rowsOf, List.map_cons, List.take_left' hlength,
      List.drop_left' hlength, hfirst, ih]

/-- The rows of an insert, read back from its values and its columns. -/
def Statement.rows (statement : Statement) (columns : List String) : List Json.Members :=
  rowsOf columns (statement.values.length / columns.length) statement.values

/-! ## The law -/

namespace Request

open Fallible

/-- The rows of an insert are read back from its values under the columns of the payload. -/
theorem rows_of_insertRows (table : String) (payload : Payload) (ne : payload.columns ≠ []) :
    ((insertRows table payload).rows payload.columns).map Payload.cell =
      payload.rows.map Payload.cell := by
  have hvalues : (insertRows table payload).values =
      payload.rows.flatMap fun row => payload.columns.map (Payload.cell row) :=
    List.flatMap_def.symm
  have hcount : payload.rows.length * payload.columns.length / payload.columns.length =
      payload.rows.length := Nat.mul_div_cancel _ (List.length_pos_iff.mpr ne)
  have hnames : ∀ row ∈ payload.rows, ∀ c ∈ row.names, c ∈ payload.columns :=
    fun row hrow c hc => Text.mem_inOrder.mpr (List.mem_flatMap.mpr ⟨row, hrow, hc⟩)
  unfold Statement.rows
  rw [hvalues, cells_length, hcount, rowsOf_cells, List.map_map]
  exact List.map_congr_left fun row hrow => Payload.cell_of_cells (hnames row hrow)

/-- Inserts into one table that have one text name the same columns, unless a comma or a bracket
in a name hides where it ends. -/
theorem columns_of_text {table suffix suffix' : String} {payload payload' : Payload}
    (h : (insertRows table payload).text ++ suffix = (insertRows table payload').text ++ suffix')
    (ne : payload.columns ≠ []) (ne' : payload'.columns ≠ [])
    (free : ∀ c ∈ payload.columns ++ payload'.columns, ',' ∉ c.toList ∧ ')' ∉ c.toList) :
    payload.columns = payload'.columns := by
  obtain ⟨hfree, hfree'⟩ := List.forall_mem_append.mp free
  have hlist (names : List String) (hnames : ∀ c ∈ names, ',' ∉ c.toList ∧ ')' ∉ c.toList) :
      ')' ∉ (Text.joined ", " names).toList :=
    Text.not_mem_joined (by decide) fun c hc => (hnames c hc).2
  simp only [insertRows_text, String.append_assoc, String.append_right_inj] at h
  obtain ⟨hjoined, _⟩ := Text.eq_of_marked ')' (hlist _ hfree) (hlist _ hfree')
    (by simpa using congrArg String.toList h)
  exact Text.joined_inj hjoined ne ne' (fun c hc => (hfree c hc).1) fun c hc => (hfree' c hc).1

/-- An insert carries each cell of its payload once. Its columns rise and are all names of the
rows, and there is a row and a column. As many groups of places follow as there are rows, each
with a place for each column, and as many values. The cell of a row and a column is the value
with the number that the two make, and null where the row has no such member. So the rows can be
read back from the values and the columns, but for members that are null, and the columns from
the text if no name holds a comma or a closing bracket. -/
theorem every_cell_is_inserted_once {request : Request} {known : Option (List String)}
    {table : String} {statement : Statement} (h : request.insert known table = .ok statement) :
    ∃ payload suffix, Payload.ofRequest request = .ok payload ∧
      1 ≤ payload.columns.length ∧ 1 ≤ payload.rows.length ∧
      payload.columns.Pairwise Text.Precedes ∧
      (∀ c, c ∈ payload.columns ↔ ∃ row ∈ payload.rows, c ∈ row.names) ∧
      statement.text = "insert into " ++ table ++ " (" ++ Text.joined ", " payload.columns ++
        ") values " ++ Text.joined ", " (List.replicate payload.rows.length
          ("(" ++ Text.joined ", " (List.replicate payload.columns.length "?") ++ ")")) ++
        suffix ∧
      (suffix = "" ∨ ∃ rest, suffix = " on conflict" ++ rest) ∧
      statement.values.length = payload.rows.length * payload.columns.length ∧
      (∀ i j row c, payload.rows[i]? = some row → payload.columns[j]? = some c →
        statement.values[i * payload.columns.length + j]? =
          some ((row.get? c).getD .null)) ∧
      (statement.rows payload.columns).map Payload.cell = payload.rows.map Payload.cell ∧
      ∀ request' known' payload', Request.insert request' known' table = .ok statement →
        Payload.ofRequest request' = .ok payload' →
        (∀ c ∈ payload.columns ++ payload'.columns, ',' ∉ c.toList ∧ ')' ∉ c.toList) →
        payload.columns = payload'.columns ∧
          payload.rows.map Payload.cell = payload'.rows.map Payload.cell := by
  obtain ⟨preference, payload, suffix, _, hpayload, hsuffix, rfl⟩ := insert_eq_ok.mp h
  obtain ⟨hread, hrows, hcols⟩ := insertPayload_eq_ok.mp hpayload
  have hvalues : (insertRows table payload).values =
      payload.rows.flatMap fun row => payload.columns.map (Payload.cell row) :=
    List.flatMap_def.symm
  refine ⟨payload, suffix, hread, List.length_pos_iff.mpr hcols, List.length_pos_iff.mpr hrows,
    Text.inOrder_pairwise _, fun c => Text.mem_inOrder.trans List.mem_flatMap, rfl, ?_, ?_, ?_,
    rows_of_insertRows table payload hcols, ?_⟩
  · rcases Conflict.suffix_eq_ok.mp hsuffix with ⟨_, rfl⟩ | ⟨action, columns, _, _, rfl⟩
    · exact .inl rfl
    · exact .inr ⟨Conflict.target columns ++ action, String.append_assoc⟩
  · simp only [hvalues, cells_length]
  · intro i j row c hrow hc
    simp only [hvalues]
    exact cell_at hrow hc
  · intro request' known' payload' h' hread' free
    obtain ⟨_, payload'', suffix', _, hpayload', _, hstatement⟩ := insert_eq_ok.mp h'
    obtain ⟨hread'', _, hcols'⟩ := insertPayload_eq_ok.mp hpayload'
    cases hread'.symm.trans hread''
    obtain ⟨htext, hsame⟩ := Statement.mk.inj hstatement
    have hcolumns := columns_of_text htext hcols hcols' free
    have hback := rows_of_insertRows table payload' hcols'
    rw [Statement.rows, ← hsame, ← hcolumns] at hback
    exact ⟨hcolumns, (rows_of_insertRows table payload hcols).symm.trans hback⟩

/-- Two rows that share one column only, with their columns in other orders. -/
theorem sparse_rows_are_inserted_whole :
    let request : Request :=
      { headers := [("content-type", "application/json"), ("prefer", "resolution=ignore-duplicates")]
        body := Text.bytes
          "[\x7b\"name\": \"a\", \"age\": 3\x7d, \x7b\"owner\": null, \"name\": \"b\"\x7d]" }
    ∃ statement, request.insert none "pets" = .ok statement ∧
      statement.text =
        "insert into pets (age, name, owner) values (?, ?, ?), (?, ?, ?) on conflict do nothing" ∧
      ∃ payload, Payload.ofRequest request = .ok payload ∧ payload.rows.length = 2 ∧
        statement.values.length = payload.rows.length * payload.columns.length ∧
        (statement.rows payload.columns).map Payload.cell = payload.rows.map Payload.cell := by
  intro request
  have htext : (request.insert none "pets").toOption.map Statement.text = some
      "insert into pets (age, name, owner) values (?, ?, ?), (?, ?, ?) on conflict do nothing" := by
    decide +kernel
  have hcount : (Payload.ofRequest request).toOption.map (fun payload => payload.rows.length) =
      some 2 := by
    decide +kernel
  obtain ⟨statement, h, hstatement⟩ := toOption_map_eq_some.mp htext
  obtain ⟨payload, hread, hrows⟩ := toOption_map_eq_some.mp hcount
  obtain ⟨payload', _, hread', _, _, _, _, _, _, hlength, _, hback, _⟩ :=
    every_cell_is_inserted_once h
  cases hread.symm.trans hread'
  exact ⟨statement, h, hstatement, payload, hread, hrows, hlength, hback⟩

end Request

end TableGateway

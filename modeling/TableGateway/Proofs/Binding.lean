import TableGateway.Proofs.Conflicts
import TableGateway.Proofs.Filters
import TableGateway.Proofs.Numerals
import TableGateway.Proofs.OrderItems
import TableGateway.Proofs.Ordered
import TableGateway.Proofs.Places

-- The laws of binding. Each place of a statement gets the value that is meant for
-- it: a cell goes to its own row and column, and a value of a condition to its own
-- column. This fails only where a name of the request holds a place itself.

namespace TableGateway

open Fallible

/-! ## Conditions -/

/-- A condition with its values written in. -/
def Condition.filled (shown : Json.Value → String) : Condition → String
  | .compares column operator value => column ++ " " ++ operator.sql ++ " " ++ shown value
  | .isOneOf column values => column ++ " IN (" ++ Text.joined "," (values.map shown) ++ ")"

/-- All conditions of a statement with their values written in. -/
def Statement.whereFilled (shown : Json.Value → String) (conditions : List Condition) : String :=
  if conditions.isEmpty then ""
  else " where " ++ Text.joined " and " (conditions.map (Condition.filled shown))

variable {shown : Json.Value → String}

theorem Condition.fills {condition : Condition} (h : '?' ∉ condition.column.toList) :
    Fills shown condition.clause.expr condition.clause.values (condition.filled shown) := by
  cases condition with
  | compares column operator value =>
    have hoperator : '?' ∉ operator.sql.toList := by
      cases operator <;> decide
    have hfront : '?' ∉ (column ++ " " ++ operator.sql ++ " ").toList := by
      have hname : '?' ∉ (column ++ " ").toList := Text.not_mem_append h (by decide)
      exact Text.not_mem_append (Text.not_mem_append hname hoperator) (by decide)
    have htext : (compares column operator value).clause.expr =
        column ++ " " ++ operator.sql ++ " " ++ "?" := by
      simp [clause, String.append_assoc]
    rw [htext]
    exact (Fills.place value).after hfront
  | isOneOf column values =>
    have hfront : '?' ∉ (column ++ " IN (").toList := Text.not_mem_append h (by decide)
    have hplaces : Fills shown (Filter.places values.length) (values.map id)
        (Text.joined "," (values.map shown)) := Fills.joined_places (by decide) values id
    rw [List.map_id] at hplaces
    exact (hplaces.after hfront).before (by decide)

theorem Statement.fills_where {conditions : List Condition}
    (h : ∀ condition ∈ conditions, '?' ∉ condition.column.toList) :
    Fills shown (whereText (conditions.map Condition.clause))
      (whereValues (conditions.map Condition.clause)) (whereFilled shown conditions) := by
  unfold whereText whereValues whereFilled
  rw [List.isEmpty_map, List.map_map, List.flatMap_map]
  split
  · rename_i hempty
    obtain rfl := List.isEmpty_iff.mp hempty
    exact Fills.plain (by decide)
  · exact (Fills.joined (by decide) fun condition hmem => Condition.fills (h condition hmem)).after
      (by decide)

/-! ## Orders and pages -/

theorem OrderItem.place_not_mem_text {piece : String} {item : OrderItem}
    (h : parse piece = .ok item) (free : '?' ∉ piece.toList) : '?' ∉ item.text.toList :=
  not_mem_of_isShownAs (isShownAs_of_parse h) free (by decide) (by decide)

theorem Page.place_not_mem_numeral (n : Int) : '?' ∉ (numeral n).toList :=
  not_mem_numeral (by decide) (by decide) n

theorem Page.place_not_mem_sql (page : Page) : '?' ∉ page.sql.toList := by
  unfold sql
  split
  · exact Text.not_mem_append (by decide) (place_not_mem_numeral _)
  · have hlimit : '?' ∉ ("limit " ++ numeral page.limit).toList :=
      Text.not_mem_append (by decide) (place_not_mem_numeral _)
    exact Text.not_mem_append (Text.not_mem_append hlimit (by decide)) (place_not_mem_numeral _)

namespace Request

theorem place_not_mem_resultColumns {request : Request}
    (free : ∀ text ∈ request.params.given? selectKey, '?' ∉ text.toList) :
    '?' ∉ (Text.joined ", " request.resultColumns).toList := by
  unfold resultColumns
  apply Text.not_mem_joined (by decide)
  split
  · decide
  · rename_i columns hgiven
    intro piece hpiece hmem
    exact free columns hgiven (Text.mem_of_mem_pieces hpiece hmem)

theorem place_not_mem_orderText {request : Request} {items : List OrderItem}
    (h : request.orderItems = .ok items)
    (free : ∀ text ∈ request.params.given? orderKey, '?' ∉ text.toList) :
    '?' ∉ (orderText items).toList := by
  have hitems : ∀ item ∈ items, '?' ∉ item.text.toList := by
    unfold orderItems at h
    split at h
    · cases h
      exact fun _ hmem => absurd hmem List.not_mem_nil
    · rename_i order hgiven
      intro item hitem
      obtain ⟨piece, hpiece, hparse⟩ := exists_of_mem_forall₂ (mapM_eq_ok.mp h) hitem
      have hmem : piece ∈ Text.pieces ',' order := (List.mem_filter.mp hpiece).1
      exact OrderItem.place_not_mem_text hparse fun hc =>
        free order hgiven (Text.mem_of_mem_pieces hmem hc)
  unfold orderText
  split
  · decide
  · refine Text.not_mem_append (by decide) (Text.not_mem_joined (by decide) ?_)
    intro text htext
    obtain ⟨item, hitem, rfl⟩ := List.mem_map.mp htext
    exact hitems item hitem

theorem place_not_mem_pageText (page : Option Page) : '?' ∉ (pageText page).toList := by
  cases page with
  | none => decide
  | some page =>
    change '?' ∉ (" " ++ page.sql).toList
    exact Text.not_mem_append (by decide) page.place_not_mem_sql

/-! ## Names in statements -/

/-- The columns that the payload of a request names. -/
def payloadKeys (request : Request) : List String :=
  match Payload.ofRequest request with
  | .ok payload => payload.rows.flatMap Json.Members.names
  | .error _ => []

/-- The columns of the filters with a value. -/
def filterKeys (request : Request) : List String :=
  request.params.fullFilters.map Prod.fst

/-- The texts that go from a request into a statement of a kind as they are. -/
def spliced (request : Request) (kind : StatementKind) (table : String) : List String :=
  table :: match kind with
    | .select => (request.params.given? selectKey).toList ++
        (request.params.given? orderKey).toList ++ request.filterKeys
    | .exactCount | .delete => request.filterKeys
    | .insert => request.payloadKeys
    | .update | .updateSingleEntry => request.payloadKeys ++ request.filterKeys

theorem place_not_mem_columns {request : Request} {payload : Payload}
    (h : Payload.ofRequest request = .ok payload)
    (free : ∀ text ∈ request.payloadKeys, '?' ∉ text.toList) :
    ∀ c ∈ payload.columns, '?' ∉ c.toList := by
  intro c hc
  apply free
  simp only [payloadKeys, h]
  exact Text.mem_inOrder.mp hc

/-- The clauses of a request are those of its conditions, and no column holds a place. -/
theorem exists_conditions {request : Request} {clauses : List Clause}
    (h : request.clauses = .ok clauses)
    (free : ∀ text ∈ request.filterKeys, '?' ∉ text.toList) :
    ∃ conditions : List Condition,
      List.Forall₂ Filter.Sets request.params.fullFilters conditions ∧
      clauses = conditions.map Condition.clause ∧
      ∀ condition ∈ conditions, '?' ∉ condition.column.toList := by
  obtain ⟨conditions, hsets, hclauses⟩ := conditions_of_clauses h
  refine ⟨conditions, hsets, hclauses, fun condition hmem => ?_⟩
  obtain ⟨pair, hpair, _, _, _, _, hmakes⟩ := exists_of_mem_forall₂ hsets hmem
  rw [hmakes.column_eq]
  exact free pair.1 (List.mem_map.mpr ⟨pair, hpair, rfl⟩)

/-! ## Statements with their values -/

/-- The rows of an insert with their values written in. -/
def insertFilled (shown : Json.Value → String) (table : String) (payload : Payload) : String :=
  "insert into " ++ table ++ " (" ++ Text.joined ", " payload.columns ++ ") values " ++
    Text.joined ", " (payload.rows.map fun row =>
      "(" ++ Text.joined ", " (payload.columns.map fun c => shown (Payload.cell row c)) ++ ")")

/-- The assignments of an update with their values written in. -/
def updateFilled (shown : Json.Value → String) (table : String) (row : Json.Members) : String :=
  "update " ++ table ++ " set " ++
    Text.joined ", " ((Payload.columns ⟨[row]⟩).map fun c =>
      c ++ " = " ++ shown (Payload.cell row c))

theorem fills_insertRows {table : String} {payload : Payload} (htable : '?' ∉ table.toList)
    (hcolumns : ∀ c ∈ payload.columns, '?' ∉ c.toList) :
    Fills shown (insertRows table payload).text (insertRows table payload).values
      (insertFilled shown table payload) := by
  have hfront : '?' ∉ ("insert into " ++ table ++ " (" ++ Text.joined ", " payload.columns ++
      ") values ").toList := by
    have hopening : '?' ∉ ("insert into " ++ table ++ " (").toList :=
      Text.not_mem_append (Text.not_mem_append (by decide) htable) (by decide)
    have hnames : '?' ∉ (Text.joined ", " payload.columns).toList :=
      Text.not_mem_joined (by decide) hcolumns
    exact Text.not_mem_append (Text.not_mem_append hopening hnames) (by decide)
  have hrow : ∀ row ∈ payload.rows, Fills shown (rowPlaces payload.columns.length)
      (payload.columns.map (Payload.cell row))
      ("(" ++ Text.joined ", " (payload.columns.map fun c => shown (Payload.cell row c)) ++ ")") :=
    fun row _ => ((Fills.joined_places (by decide) payload.columns (Payload.cell row)).after
      (by decide)).before (by decide)
  unfold insertRows
  simp only
  rw [← List.map_const', Payload.cells, ← List.flatMap_def]
  exact (Fills.joined (by decide) hrow).after hfront

theorem fills_assignments {table : String} {row : Json.Members} (htable : '?' ∉ table.toList)
    (hcolumns : ∀ c ∈ Payload.columns ⟨[row]⟩, '?' ∉ c.toList) :
    Fills shown (assignments table ⟨[row]⟩).text (assignments table ⟨[row]⟩).values
      (updateFilled shown table row) := by
  have hfront : '?' ∉ ("update " ++ table ++ " set ").toList :=
    Text.not_mem_append (Text.not_mem_append (by decide) htable) (by decide)
  have hassignment : ∀ c ∈ Payload.columns ⟨[row]⟩, Fills shown (c ++ " = ?")
      [Payload.cell row c] (c ++ " = " ++ shown (Payload.cell row c)) := by
    intro c hc
    have hname : '?' ∉ (c ++ " = ").toList := Text.not_mem_append (hcolumns c hc) (by decide)
    have htext : c ++ " = ?" = c ++ " = " ++ "?" := by
      simp [String.append_assoc]
    rw [htext]
    exact (Fills.place _).after hname
  rw [assignments_eq, List.map_eq_flatMap (f := Payload.cell row)]
  exact (Fills.joined (by decide) hassignment).after hfront

theorem insert_fills {request : Request} {known : Option (List String)} {table : String}
    {statement : Statement} (h : request.insert known table = .ok statement)
    (free : ∀ text ∈ table :: request.payloadKeys, '?' ∉ text.toList) :
    ∃ preference payload suffix, Preference.ofRequest request = .ok preference ∧
      Payload.ofRequest request = .ok payload ∧
      Conflict.suffix request known preference.resolution payload.columns = .ok suffix ∧
      '?' ∉ suffix.toList ∧ ∀ shown, Fills shown statement.text statement.values
        (insertFilled shown table payload ++ suffix) := by
  obtain ⟨htable, hkeys⟩ := List.forall_mem_cons.mp free
  obtain ⟨preference, payload, suffix, hpreference, hpayload, hsuffix, rfl⟩ := insert_eq_ok.mp h
  have hread := (insertPayload_eq_ok.mp hpayload).1
  have hcolumns := place_not_mem_columns hread hkeys
  have hend := Conflict.place_not_mem_suffix hsuffix hcolumns
  refine ⟨preference, payload, suffix, hpreference, hread, hsuffix, hend, fun shown => ?_⟩
  exact (fills_insertRows htable hcolumns).before hend

theorem update_fills {request : Request} {table : String} {statement : Statement}
    (h : request.update table = .ok statement)
    (free : ∀ text ∈ table :: (request.payloadKeys ++ request.filterKeys), '?' ∉ text.toList) :
    ∃ row conditions, Payload.ofRequest request = .ok ⟨[row]⟩ ∧
      List.Forall₂ Filter.Sets request.params.fullFilters conditions ∧ ∀ shown,
        Fills shown statement.text statement.values
          (updateFilled shown table row ++ Statement.whereFilled shown conditions) := by
  obtain ⟨htable, hnames⟩ := List.forall_mem_cons.mp free
  obtain ⟨hkeys, hfilters⟩ := List.forall_mem_append.mp hnames
  obtain ⟨row, clauses, hread, _, hclauses, rfl⟩ := update_eq_ok.mp h
  obtain ⟨conditions, hsets, rfl, hcolumns⟩ := exists_conditions hclauses hfilters
  refine ⟨row, conditions, hread, hsets, fun shown => ?_⟩
  have hassignments : Fills shown _ _ _ :=
    fills_assignments htable (place_not_mem_columns hread hkeys)
  rw [assignments_eq] at hassignments
  exact hassignments.append (Statement.fills_where hcolumns)

/-- What begins with a table goes on with the conditions of the request. -/
theorem restricted_fills {request : Request} {lead table : String} {clauses : List Clause}
    {statement : Statement} (h : request.clauses = .ok clauses)
    (hstatement : statement =
      ⟨lead ++ table ++ Statement.whereText clauses, Statement.whereValues clauses⟩)
    (hlead : '?' ∉ lead.toList) (free : ∀ text ∈ table :: request.filterKeys, '?' ∉ text.toList) :
    ∃ conditions, List.Forall₂ Filter.Sets request.params.fullFilters conditions ∧ ∀ shown,
      Fills shown statement.text statement.values
        (lead ++ table ++ Statement.whereFilled shown conditions) := by
  obtain ⟨htable, hfilters⟩ := List.forall_mem_cons.mp free
  obtain ⟨conditions, hsets, rfl, hcolumns⟩ := exists_conditions h hfilters
  subst hstatement
  refine ⟨conditions, hsets, fun shown => ?_⟩
  exact (Statement.fills_where hcolumns).after (Text.not_mem_append hlead htable)

theorem select_fills {request : Request} {table : String} {statement : Statement}
    (h : request.select table = .ok statement)
    (free : ∀ text ∈ table :: ((request.params.given? selectKey).toList ++
      (request.params.given? orderKey).toList ++ request.filterKeys), '?' ∉ text.toList) :
    ∃ conditions items page, List.Forall₂ Filter.Sets request.params.fullFilters conditions ∧
      request.orderItems = .ok items ∧ Page.ofRequest request = .ok page ∧ ∀ shown,
        Fills shown statement.text statement.values
          ("select " ++ Text.joined ", " request.resultColumns ++ " from " ++ table ++
            Statement.whereFilled shown conditions ++ orderText items ++ pageText page) := by
  obtain ⟨htable, hnames⟩ := List.forall_mem_cons.mp free
  obtain ⟨hparts, hfilters⟩ := List.forall_mem_append.mp hnames
  obtain ⟨hselect, horder⟩ := List.forall_mem_append.mp hparts
  obtain ⟨clauses, items, page, hclauses, hitems, hpage, rfl⟩ := select_eq_ok.mp h
  have hresult : '?' ∉ (Text.joined ", " request.resultColumns).toList :=
    place_not_mem_resultColumns fun text hmem => hselect text (Option.mem_toList.mpr hmem)
  have hitemsText : '?' ∉ (orderText items).toList :=
    place_not_mem_orderText hitems fun text hmem => horder text (Option.mem_toList.mpr hmem)
  have hlead : '?' ∉ ("select " ++ Text.joined ", " request.resultColumns ++ " from ").toList :=
    Text.not_mem_append (Text.not_mem_append (by decide) hresult) (by decide)
  obtain ⟨conditions, hsets, rfl, hcolumns⟩ := exists_conditions hclauses hfilters
  refine ⟨conditions, items, page, hsets, hitems, hpage, fun shown => ?_⟩
  have hwhere : Fills shown _ _ _ :=
    (Statement.fills_where hcolumns).after (Text.not_mem_append hlead htable)
  exact (hwhere.before hitemsText).before (place_not_mem_pageText page)

theorem mem_columns_of_row (row : Json.Members) (c : String) :
    c ∈ Payload.columns ⟨[row]⟩ ↔ c ∈ row.names := by
  unfold Payload.columns
  rw [Text.mem_inOrder, List.flatMap_singleton]

/-! ## The law -/

/-- There are as many places in a statement as values, unless a name of the request that goes
into it holds a place, and the places take the values in order. Written in, the values of an
insert stand row by row in the order of the columns, and its end has no place. Those of an
update come column by column before those of the conditions, and the conditions are those of
the filters, one after another, a list with all that it lists. -/
theorem every_value_has_its_place {request : Request} {known : Option (List String)}
    {kind : StatementKind} {table : String} {statement : Statement}
    (h : request.compile known kind table = .ok statement)
    (free : ∀ text ∈ request.spliced kind table, '?' ∉ text.toList) :
    statement.text.toList.count '?' = statement.values.length ∧
    match kind with
    | .insert => ∃ preference payload suffix,
        Preference.ofRequest request = .ok preference ∧
        Payload.ofRequest request = .ok payload ∧
        payload.columns.Pairwise Text.Precedes ∧
        (∀ c, c ∈ payload.columns ↔ ∃ row ∈ payload.rows, c ∈ row.names) ∧
        Conflict.suffix request known preference.resolution payload.columns = .ok suffix ∧
        '?' ∉ suffix.toList ∧
        ∀ shown, statement.filled shown = some (insertFilled shown table payload ++ suffix)
    | .update | .updateSingleEntry => ∃ row conditions,
        Payload.ofRequest request = .ok ⟨[row]⟩ ∧
        (Payload.columns ⟨[row]⟩).Pairwise Text.Precedes ∧
        (∀ c, c ∈ Payload.columns ⟨[row]⟩ ↔ c ∈ row.names) ∧
        List.Forall₂ Filter.Sets request.params.fullFilters conditions ∧
        ∀ shown, statement.filled shown =
          some (updateFilled shown table row ++ Statement.whereFilled shown conditions)
    | .select => ∃ conditions items page,
        List.Forall₂ Filter.Sets request.params.fullFilters conditions ∧
        request.orderItems = .ok items ∧ Page.ofRequest request = .ok page ∧
        ∀ shown, statement.filled shown =
          some ("select " ++ Text.joined ", " request.resultColumns ++ " from " ++ table ++
            Statement.whereFilled shown conditions ++ orderText items ++ pageText page)
    | .exactCount => ∃ conditions,
        List.Forall₂ Filter.Sets request.params.fullFilters conditions ∧
        ∀ shown, statement.filled shown =
          some ("select count(1) from " ++ table ++ Statement.whereFilled shown conditions)
    | .delete => ∃ conditions,
        List.Forall₂ Filter.Sets request.params.fullFilters conditions ∧
        ∀ shown, statement.filled shown =
          some ("delete from " ++ table ++ Statement.whereFilled shown conditions) := by
  cases kind with
  | insert =>
    obtain ⟨preference, payload, suffix, hpreference, hread, hsuffix, hend, hfills⟩ :=
      insert_fills h free
    refine ⟨(hfills fun _ => "").count_eq, preference, payload, suffix, hpreference, hread,
      Text.inOrder_pairwise _, fun c => ?_, hsuffix, hend, fun shown => (hfills shown).filled_eq⟩
    exact Text.mem_inOrder.trans List.mem_flatMap
  | update =>
    obtain ⟨row, conditions, hread, hsets, hfills⟩ := update_fills h free
    exact ⟨(hfills fun _ => "").count_eq, row, conditions, hread, Text.inOrder_pairwise _,
      mem_columns_of_row row, hsets, fun shown => (hfills shown).filled_eq⟩
  | updateSingleEntry =>
    obtain ⟨row, conditions, hread, hsets, hfills⟩ :=
      update_fills (updateSingleEntry_eq_ok.mp h).1 free
    exact ⟨(hfills fun _ => "").count_eq, row, conditions, hread, Text.inOrder_pairwise _,
      mem_columns_of_row row, hsets, fun shown => (hfills shown).filled_eq⟩
  | select =>
    obtain ⟨conditions, items, page, hsets, hitems, hpage, hfills⟩ := select_fills h free
    exact ⟨(hfills fun _ => "").count_eq, conditions, items, page, hsets, hitems, hpage,
      fun shown => (hfills shown).filled_eq⟩
  | exactCount =>
    obtain ⟨clauses, hclauses, hstatement⟩ := exactCount_eq_ok.mp h
    obtain ⟨conditions, hsets, hfills⟩ := restricted_fills hclauses hstatement (by decide) free
    exact ⟨(hfills fun _ => "").count_eq, conditions, hsets, fun shown => (hfills shown).filled_eq⟩
  | delete =>
    obtain ⟨clauses, hclauses, hstatement⟩ := delete_eq_ok.mp h
    obtain ⟨conditions, hsets, hfills⟩ := restricted_fills hclauses hstatement (by decide) free
    exact ⟨(hfills fun _ => "").count_eq, conditions, hsets, fun shown => (hfills shown).filled_eq⟩

/-- An update with five places, two of them in one list. -/
theorem five_values_in_five_places :
    let request : Request :=
      { params := ⟨[("id", "in.(7,8)"), ("note", "is.null")]⟩
        headers := [("content-type", "application/json")]
        body := Text.bytes "[\x7b\"name\": \"a?\", \"age\": 3\x7d]" }
    ∃ statement, request.compile none .update "pets" = .ok statement ∧
      (∀ text ∈ request.spliced .update "pets", '?' ∉ text.toList) ∧
      statement.text = "update pets set age = ?, name = ? where id IN (?,?) and note IS ?" ∧
      statement.text.toList.count '?' = statement.values.length := by
  intro request
  have htext : (request.compile none .update "pets").toOption.map Statement.text =
      some "update pets set age = ?, name = ? where id IN (?,?) and note IS ?" := by
    decide +kernel
  have free : ∀ text ∈ request.spliced .update "pets", '?' ∉ text.toList := by
    decide +kernel
  cases h : request.compile none .update "pets" with
  | error fault => simp [h, Except.toOption] at htext
  | ok statement =>
    rw [h] at htext
    exact ⟨statement, rfl, free, Option.some.inj htext, (every_value_has_its_place h free).1⟩

end Request

end TableGateway

import TableGateway.Proofs.Conflicts
import TableGateway.Proofs.Filters
import TableGateway.Proofs.Ordered

-- Requests that are alike but for their values. They become statements with one text, so
-- nothing that is written into a value can change what a database is asked to do.

namespace TableGateway

open Fallible

/-! ## Requests that are alike -/

/-- How many values an operand lists, if it is a list. -/
def Filter.listLength? (operand : String) : Option Nat :=
  (Json.readValues (Text.bytes (listText operand))).toOption.map List.length

/-- Two values of filters are alike: both are empty, or they name the same operator, and two
lists are equally long. -/
inductive Filter.Alike : String → String → Prop where
  | empty : Alike "" ""
  | written {operator : Operator} {operand operand' : String}
      (lengths : operator = .isIn → listLength? operand = listLength? operand') :
      Alike (written operator operand) (written operator operand')

/-- Two parameters are alike: they have one key, and its meaning decides how much of their
values has to be the same. -/
structure Params.AlikePair (pair pair' : String × String) : Prop where
  key : pair.1 = pair'.1
  reserved : pair.1 ∈ reservedKeys → pair.2 = pair'.2
  filter : isColumnKey pair.1 = true → Filter.Alike pair.2 pair'.2

/-- The parameters of two requests are alike, place by place. -/
def Params.Alike (params params' : Params) : Prop :=
  List.Forall₂ AlikePair params.pairs params'.pairs

/-- Two payloads are alike: they have as many rows, and their rows name the same columns. -/
structure Payload.Alike (payload payload' : Payload) : Prop where
  count : payload.rows.length = payload'.rows.length
  names : ∀ c, (∃ row ∈ payload.rows, c ∈ row.names) ↔ ∃ row ∈ payload'.rows, c ∈ row.names

/-- The statement takes rows from the body of the request. -/
def StatementKind.takesRows : StatementKind → Bool
  | .insert | .update | .updateSingleEntry => true
  | .select | .exactCount | .delete => false

/-- Two requests are alike for a kind of statement. Bodies count only where rows are taken from
them. -/
structure Request.Alike (kind : StatementKind) (request request' : Request) : Prop where
  headers : request.headers = request'.headers
  params : request.params.Alike request'.params
  bodies : kind.takesRows = true → ∀ payload payload', Payload.ofJson request.body = .ok payload →
    Payload.ofJson request'.body = .ok payload' → payload.Alike payload'

/-! ## Clauses -/

/-- The text of a condition depends on its column and its operator, and for a list on how long
that is. -/
theorem Operator.Makes.expr_eq {operator : Operator} {column operand : String}
    {condition : Condition} (h : operator.Makes column operand condition) :
    (operator ≠ .isIn ∧ condition.clause.expr = column ++ " " ++ operator.sql ++ " ?") ∨
    ∃ count, operator = .isIn ∧ Filter.listLength? operand = some count ∧
      condition.clause.expr = column ++ " IN (" ++ Filter.places count ++ ")" := by
  cases h with
  | compares simple => exact .inl ⟨simple.1, rfl⟩
  | names _ => exact .inl ⟨by decide, rfl⟩
  | @lists _ values listed _ =>
    have hlength : Filter.listLength? operand = some values.length := by
      rw [Filter.listLength?, listed]
      rfl
    exact .inr ⟨values.length, rfl, hlength, rfl⟩

namespace Filter

theorem written_inj {operator operator' : Operator} {operand operand' : String}
    (h : written operator operand = written operator' operand') :
    operator = operator' ∧ operand = operand' := by
  have hname : ∀ operator : Operator, Operator.ofName? operator.name = some operator :=
    fun _ => Operator.ofName?_eq_some.mpr rfl
  have hcut : Text.cutAt '.' (written operator operand) = some (operator.name, operand) :=
    (cutAt_written (hname _)).mpr rfl
  rw [h, (cutAt_written (hname operator')).mpr rfl] at hcut
  obtain ⟨hoperator, hoperand⟩ := Prod.mk.inj (Option.some.inj hcut)
  exact ⟨Operator.eq_of_name_eq hoperator.symm, hoperand.symm⟩

theorem Alike.empty_iff {raw raw' : String} (h : Alike raw raw') : raw = "" ↔ raw' = "" := by
  cases h with
  | empty => exact Iff.rfl
  | written _ => simp [written_ne_empty]

/-- Filters that are alike set conditions with one text. -/
theorem Alike.expr_eq {pair pair' : String × String} {condition condition' : Condition}
    (key : pair.1 = pair'.1) (alike : Alike pair.2 pair'.2) (h : Sets pair condition)
    (h' : Sets pair' condition') : condition.clause.expr = condition'.clause.expr := by
  obtain ⟨column, raw⟩ := pair
  obtain ⟨column', raw'⟩ := pair'
  obtain ⟨operator, operand, hraw, hoperand, hmakes⟩ := h
  obtain ⟨operator', operand', hraw', _, hmakes'⟩ := h'
  simp only at key alike hraw hraw' hmakes hmakes'
  subst key
  cases alike with
  | empty => exact absurd hraw.symm (written_ne_empty _ _)
  | written lengths =>
    obtain ⟨rfl, rfl⟩ := written_inj hraw
    obtain ⟨rfl, rfl⟩ := written_inj hraw'
    rcases hmakes.expr_eq with ⟨hne, hexpr⟩ | ⟨count, hin, hcount, hexpr⟩
    · rcases hmakes'.expr_eq with ⟨_, hexpr'⟩ | ⟨_, hin, _⟩
      · rw [hexpr, hexpr']
      · exact absurd hin hne
    · rcases hmakes'.expr_eq with ⟨hne, _⟩ | ⟨count', _, hcount', hexpr'⟩
      · exact absurd hin hne
      · rw [lengths hin, hcount'] at hcount
        cases hcount
        rw [hexpr, hexpr']

/-- Filters that are alike, each with its condition. -/
theorem exprs_eq {pairs pairs' : List (String × String)} {conditions conditions' : List Condition}
    (alike : List.Forall₂ (fun pair pair' => pair.1 = pair'.1 ∧ Alike pair.2 pair'.2) pairs pairs')
    (h : List.Forall₂ Sets pairs conditions) (h' : List.Forall₂ Sets pairs' conditions') :
    conditions.map (fun condition => condition.clause.expr) =
      conditions'.map fun condition => condition.clause.expr := by
  induction alike generalizing conditions conditions' with
  | nil =>
    cases h
    cases h'
    rfl
  | cons hpair _ ih =>
    cases h with
    | cons hset hrest =>
      cases h' with
      | cons hset' hrest' =>
        rw [List.map_cons, List.map_cons, hpair.2.expr_eq hpair.1 hset hset', ih hrest hrest']

end Filter

/-- The text of a condition depends on the texts of its clauses only. -/
theorem Statement.whereText_congr {clauses clauses' : List Clause}
    (h : clauses.map Clause.expr = clauses'.map Clause.expr) :
    whereText clauses = whereText clauses' := by
  have hempty : clauses.isEmpty = clauses'.isEmpty := by
    rw [← List.isEmpty_map (f := Clause.expr), h, List.isEmpty_map]
  rw [whereText, whereText, hempty, h]

/-! ## Parameters -/

namespace Params.Alike

variable {params params' : Params}

/-- A reserved key has one value in both. -/
theorem given?_eq (h : params.Alike params') {key : String} (reserved : key ∈ reservedKeys) :
    params.given? key = params'.given? key := by
  obtain ⟨pairs⟩ := params
  obtain ⟨pairs'⟩ := params'
  replace h : List.Forall₂ AlikePair pairs pairs' := h
  have hget : get? ⟨pairs⟩ key = get? ⟨pairs'⟩ key := by
    unfold Params.get?
    induction h with
    | nil => rfl
    | @cons pair pair' _ _ hpair _ ih =>
      by_cases hkey : pair.1 = key
      · have hvalue : pair.2 = pair'.2 := hpair.reserved (hkey ▸ reserved)
        simp [hkey, ← hpair.key, hvalue]
      · simpa [List.find?_cons, hkey, ← hpair.key] using ih
  rw [given?, given?, hget]

theorem keys_eq (h : params.Alike params') : params.keys = params'.keys := by
  have hkeys : ∀ params : Params, params.keys = (params.pairs.map Prod.fst).foldl addKey [] :=
    fun _ => List.foldl_map.symm
  have hsame : List.Forall₂ Eq (params.pairs.map Prod.fst) (params'.pairs.map Prod.fst) :=
    List.rel_map (fun _ _ hpair => hpair.key) h
  rw [List.forall₂_eq_eq_eq] at hsame
  rw [hkeys, hkeys, hsame]

theorem block (h : params.Alike params') (key : String) :
    List.Forall₂ AlikePair (params.block key) (params'.block key) :=
  List.rel_filter (fun _ _ hpair => by simp [hpair.key]) h

/-- Grouping keeps parameters that are alike at the same places. -/
theorem fullFilters (h : params.Alike params') :
    List.Forall₂ (fun pair pair' => pair.1 = pair'.1 ∧ Filter.Alike pair.2 pair'.2)
      params.fullFilters params'.fullFilters := by
  have hfilters : List.Forall₂ AlikePair params.filters params'.filters := by
    have hcolumns : params.columnKeys = params'.columnKeys := by
      rw [columnKeys, columnKeys, h.keys_eq]
    rw [filters_eq, filters_eq, ← hcolumns]
    refine List.rel_flatMap (R := Eq) (List.forall₂_same.mpr fun _ _ => rfl) ?_
    rintro key _ rfl
    exact h.block key
  have hcolumn : ∀ pair ∈ params.filters, isColumnKey pair.1 = true := fun pair hpair =>
    (List.mem_filter.mp hpair).2
  have halike := ((List.forall₂_and_left _ _).mpr ⟨hcolumn, hfilters⟩).imp
    fun pair pair' hpair => And.intro hpair.2.key (hpair.2.filter hpair.1)
  refine List.rel_filter (fun pair pair' hpair => ?_) halike
  simp [hpair.2.empty_iff]

end Params.Alike

/-! ## Rows -/

theorem Payload.Alike.columns_eq {payload payload' : Payload} (h : payload.Alike payload') :
    payload.columns = payload'.columns := by
  apply Text.inOrder_congr
  intro c
  rw [List.mem_flatMap, List.mem_flatMap]
  exact h.names c

/-- Payloads are alike if the same names stand in the same rows. -/
theorem Payload.Alike.of_names {payload payload' : Payload}
    (h : payload.rows.map Json.Members.names = payload'.rows.map Json.Members.names) :
    payload.Alike payload' := by
  have hnames : ∀ (payload : Payload) (c : String), (∃ row ∈ payload.rows, c ∈ row.names) ↔
      ∃ names ∈ payload.rows.map Json.Members.names, c ∈ names := fun payload c => by
    simp
  refine ⟨by simpa using congrArg List.length h, fun c => ?_⟩
  rw [hnames, hnames, h]

/-- Payloads that are alike have places for the same cells. -/
theorem Payload.Alike.insertRows_eq {payload payload' : Payload} (h : payload.Alike payload')
    (table : String) :
    (Request.insertRows table payload).text = (Request.insertRows table payload').text := by
  rw [Request.insertRows_text, Request.insertRows_text, h.columns_eq, h.count]

theorem Payload.ofRequest_eq_ok {request : Request} {payload : Payload}
    (h : ofRequest request = .ok payload) : ofJson request.body = .ok payload := by
  unfold ofRequest at h
  split at h
  · exact h
  · cases h

/-! ## Parts of statements -/

namespace Request.Alike

variable {kind : StatementKind} {request request' : Request}

theorem header?_eq (alike : Request.Alike kind request request') (name : String) :
    request.header? name = request'.header? name := by
  rw [header?, header?, alike.headers]

theorem preference_eq (alike : Request.Alike kind request request') :
    Preference.ofRequest request = Preference.ofRequest request' := by
  rw [Preference.ofRequest, Preference.ofRequest, alike.header?_eq]

theorem resultColumns_eq (alike : Request.Alike kind request request') :
    request.resultColumns = request'.resultColumns := by
  rw [resultColumns, resultColumns, alike.params.given?_eq (by decide)]

theorem orderItems_eq (alike : Request.Alike kind request request') :
    request.orderItems = request'.orderItems := by
  rw [orderItems, orderItems, alike.params.given?_eq (by decide)]

theorem page_eq (alike : Request.Alike kind request request') :
    Page.ofRequest request = Page.ofRequest request' :=
  Page.ofRequest_congr (alike.header?_eq _) (alike.params.given?_eq (by decide))
    (alike.params.given?_eq (by decide))

theorem names_eq (alike : Request.Alike kind request request') :
    Conflict.names request = Conflict.names request' := by
  rw [Conflict.names, Conflict.names, alike.params.given?_eq (by decide)]

/-- The payloads of requests that are alike are alike. -/
theorem payload (alike : Request.Alike kind request request') (takes : kind.takesRows = true)
    {payload payload' : Payload} (h : Payload.ofRequest request = .ok payload)
    (h' : Payload.ofRequest request' = .ok payload') : payload.Alike payload' :=
  alike.bodies takes payload payload' (Payload.ofRequest_eq_ok h) (Payload.ofRequest_eq_ok h')

/-- The conditions of requests that are alike have one text. -/
theorem whereText_eq {clauses clauses' : List Clause} (alike : Request.Alike kind request request')
    (h : request.clauses = .ok clauses) (h' : request'.clauses = .ok clauses') :
    Statement.whereText clauses = Statement.whereText clauses' := by
  obtain ⟨conditions, hsets, rfl⟩ := conditions_of_clauses h
  obtain ⟨conditions', hsets', rfl⟩ := conditions_of_clauses h'
  apply Statement.whereText_congr
  rw [List.map_map, List.map_map]
  exact Filter.exprs_eq alike.params.fullFilters hsets hsets'

/-! ## Statements -/

variable {table : String} {statement statement' : Statement}

theorem select_text_eq (alike : Request.Alike kind request request')
    (h : request.select table = .ok statement) (h' : request'.select table = .ok statement') :
    statement.text = statement'.text := by
  obtain ⟨clauses, items, page, hclauses, hitems, hpage, rfl⟩ := select_eq_ok.mp h
  obtain ⟨clauses', items', page', hclauses', hitems', hpage', rfl⟩ := select_eq_ok.mp h'
  rw [alike.orderItems_eq, hitems'] at hitems
  rw [alike.page_eq, hpage'] at hpage
  cases hitems
  cases hpage
  simp only [alike.resultColumns_eq, alike.whereText_eq hclauses hclauses']

theorem update_text_eq (alike : Request.Alike kind request request')
    (takes : kind.takesRows = true) (h : request.update table = .ok statement)
    (h' : request'.update table = .ok statement') : statement.text = statement'.text := by
  obtain ⟨row, clauses, hread, _, hclauses, rfl⟩ := update_eq_ok.mp h
  obtain ⟨row', clauses', hread', _, hclauses', rfl⟩ := update_eq_ok.mp h'
  have hcolumns := (alike.payload takes hread hread').columns_eq
  simp only [hcolumns, alike.whereText_eq hclauses hclauses']

/-- What is known of the columns of the table does not stand in an insert. -/
theorem insert_text_eq {known known' : Option (List String)}
    (alike : Request.Alike kind request request') (takes : kind.takesRows = true)
    (h : request.insert known table = .ok statement)
    (h' : request'.insert known' table = .ok statement') : statement.text = statement'.text := by
  obtain ⟨preference, payload, suffix, hpreference, hpayload, hsuffix, rfl⟩ := insert_eq_ok.mp h
  obtain ⟨preference', payload', suffix', hpreference', hpayload', hsuffix', rfl⟩ :=
    insert_eq_ok.mp h'
  rw [alike.preference_eq, hpreference'] at hpreference
  cases hpreference
  have hrows := alike.payload takes (insertPayload_eq_ok.mp hpayload).1
    (insertPayload_eq_ok.mp hpayload').1
  have hend : suffix = suffix' := by
    rw [hrows.columns_eq] at hsuffix
    rcases Conflict.suffix_eq_ok.mp hsuffix with ⟨hnone, rfl⟩ | ⟨action, names, haction, hnames, rfl⟩
    · rcases Conflict.suffix_eq_ok.mp hsuffix' with ⟨_, rfl⟩ | ⟨_, _, haction', _⟩
      · rfl
      · cases hnone.symm.trans haction'
    · rcases Conflict.suffix_eq_ok.mp hsuffix' with ⟨hnone, _⟩ | ⟨_, names', haction', hnames', rfl⟩
      · cases hnone.symm.trans haction
      · cases haction.symm.trans haction'
        rw [(Conflict.columns_eq_ok.mp hnames).1, (Conflict.columns_eq_ok.mp hnames').1,
          alike.names_eq]
  rw [hrows.insertRows_eq, hend]

end Request.Alike

namespace Request

/-! ## The law -/

/-- No value reaches the text of a statement. Two requests may differ in the operands of their
filters and in the cells of their rows, and still they become statements with one text. This
holds for each kind of statement, whatever is known of the columns of the table. -/
theorem no_value_reaches_the_text {request request' : Request} {kind : StatementKind}
    {known known' : Option (List String)} {table : String} {statement statement' : Statement}
    (alike : Request.Alike kind request request')
    (h : request.compile known kind table = .ok statement)
    (h' : request'.compile known' kind table = .ok statement') :
    statement.text = statement'.text := by
  cases kind with
  | select => exact alike.select_text_eq h h'
  | exactCount =>
    obtain ⟨clauses, hclauses, rfl⟩ := exactCount_eq_ok.mp h
    obtain ⟨clauses', hclauses', rfl⟩ := exactCount_eq_ok.mp h'
    simp only [alike.whereText_eq hclauses hclauses']
  | insert => exact alike.insert_text_eq rfl h h'
  | update => exact alike.update_text_eq rfl h h'
  | updateSingleEntry =>
    exact alike.update_text_eq rfl (updateSingleEntry_eq_ok.mp h).1 (updateSingleEntry_eq_ok.mp h').1
  | delete =>
    obtain ⟨clauses, hclauses, rfl⟩ := delete_eq_ok.mp h
    obtain ⟨clauses', hclauses', rfl⟩ := delete_eq_ok.mp h'
    simp only [alike.whereText_eq hclauses hclauses']

/-- One update writes a plain name and looks for two numbers. The other one tries to end the
statement, in its cell and in its filters. -/
theorem a_quote_does_not_end_the_text :
    let plain : Request :=
      { params := ⟨[("id", "in.(7,8)"), ("name", "eq.tom")]⟩
        headers := [("content-type", "application/json")]
        body := Text.bytes "[\x7b\"name\": \"cat\"\x7d]" }
    let sharp : Request :=
      { params := ⟨[("id", "in.(null,\"8); --\")"), ("name", "eq.'; drop table pets; --")]⟩
        headers := [("content-type", "application/json")]
        body := Text.bytes "[\x7b\"name\": \"' where 1=1; --\"\x7d]" }
    Request.Alike .update plain sharp ∧
    ∃ statement statement', plain.compile none .update "pets" = .ok statement ∧
      sharp.compile none .update "pets" = .ok statement' ∧
      statement.text = "update pets set name = ? where id IN (?,?) and name = ?" ∧
      statement.text = statement'.text := by
  intro plain sharp
  have hlists : Filter.Alike "in.(7,8)" "in.(null,\"8); --\")" := by
    change Filter.Alike (Filter.written .isIn "(7,8)") (Filter.written .isIn "(null,\"8); --\")")
    exact .written fun _ => by decide +kernel
  have htexts : Filter.Alike "eq.tom" "eq.'; drop table pets; --" := by
    change Filter.Alike (Filter.written .eq "tom") (Filter.written .eq "'; drop table pets; --")
    exact .written fun h => by cases h
  have hnames (body : List UInt8) (payload : Payload) (h : Payload.ofJson body = .ok payload)
      (hbody : (Payload.ofJson body).toOption.map (fun payload => payload.rows.map Json.Members.names) =
        some [["name"]]) : payload.rows.map Json.Members.names = [["name"]] := by
    simpa [h, Except.toOption] using hbody
  have alike : Request.Alike .update plain sharp := by
    refine ⟨rfl, .cons ⟨rfl, ?_, fun _ => hlists⟩ (.cons ⟨rfl, ?_, fun _ => htexts⟩ .nil), ?_⟩
    · decide
    · decide
    · intro _ payload payload' h h'
      apply Payload.Alike.of_names
      rw [hnames _ payload h (by decide +kernel), hnames _ payload' h' (by decide +kernel)]
  have htext : (plain.compile none .update "pets").toOption.map Statement.text =
      some "update pets set name = ? where id IN (?,?) and name = ?" := by
    decide +kernel
  have hsharp : (sharp.compile none .update "pets").toOption.map (fun _ => ()) = some () := by
    decide +kernel
  obtain ⟨statement, h, hstatement⟩ := toOption_map_eq_some.mp htext
  obtain ⟨statement', h', _⟩ := toOption_map_eq_some.mp hsharp
  exact ⟨alike, statement, statement', h, h', hstatement, no_value_reaches_the_text alike h h'⟩

end Request

end TableGateway

import TableGateway.Proofs.Filters

-- The grammar of filters. How the value of a filter is written is said here by tables of names
-- and by its parts, and the reader of filters takes exactly the values that are written so.
-- What it does not take is told back as it stands, but for a list that is no JSON.

namespace TableGateway

open Fallible

namespace Filter

/-! ## Lists in parentheses -/

/-- What is left of an operand without one opening parenthesis in front, if there is one, and
without one closing parenthesis at the end of the rest. The two need not come together. -/
def Bares (operand inner : String) : Prop :=
  ∃ front back, operand.toList = front ++ inner.toList ++ back ∧
    (front = ['('] ∨ front = [] ∧ operand.toList.head? ≠ some '(') ∧
    (back = [')'] ∨ back = [] ∧ inner.toList.getLast? ≠ some ')')

/-- The characters without one closing parenthesis at the end. -/
def withoutClosing (cs : List Char) : List Char :=
  if cs.getLast? = some ')' then cs.dropLast else cs

theorem unwrapped_eq (operand : String) :
    unwrapped operand = String.ofList (withoutClosing (withoutOpening operand.toList)) :=
  rfl

theorem opening_of_withoutOpening (cs : List Char) : ∃ front, cs = front ++ withoutOpening cs ∧
    (front = ['('] ∨ front = [] ∧ cs.head? ≠ some '(') := by
  unfold withoutOpening
  split
  · exact ⟨['('], rfl, .inl rfl⟩
  · rename_i hother
    refine ⟨[], rfl, .inr ⟨rfl, fun hhead => ?_⟩⟩
    obtain ⟨rest, hrest⟩ := List.head?_eq_some_iff.mp hhead
    exact hother rest hrest

theorem closing_of_withoutClosing (cs : List Char) : ∃ back, cs = withoutClosing cs ++ back ∧
    (back = [')'] ∨ back = [] ∧ (withoutClosing cs).getLast? ≠ some ')') := by
  unfold withoutClosing
  split
  · rename_i hlast
    exact ⟨[')'], (List.dropLast_append_getLast? _ hlast).symm, .inl rfl⟩
  · rename_i hlast
    exact ⟨[], (List.append_nil cs).symm, .inr ⟨rfl, hlast⟩⟩

theorem withoutOpening_append {front rest : List Char}
    (h : front = ['('] ∨ front = [] ∧ (front ++ rest).head? ≠ some '(') :
    withoutOpening (front ++ rest) = rest := by
  rcases h with rfl | ⟨rfl, hhead⟩
  · rfl
  · rw [List.nil_append] at hhead ⊢
    unfold withoutOpening
    split
    · exact absurd rfl hhead
    · rfl

theorem withoutClosing_append {inner back : List Char}
    (h : back = [')'] ∨ back = [] ∧ inner.getLast? ≠ some ')') :
    withoutClosing (inner ++ back) = inner := by
  unfold withoutClosing
  rcases h with rfl | ⟨rfl, hlast⟩
  · rw [if_pos List.getLast?_concat, List.dropLast_concat]
  · rw [List.append_nil, if_neg hlast]

/-- There is one text that is left of an operand. -/
theorem bares_iff {operand inner : String} : Bares operand inner ↔ unwrapped operand = inner := by
  rw [unwrapped_eq]
  constructor
  · rintro ⟨front, back, heq, hfront, hback⟩
    rw [List.append_assoc] at heq
    rw [heq] at hfront ⊢
    rw [withoutOpening_append hfront, withoutClosing_append hback, String.ofList_toList]
  · rintro rfl
    obtain ⟨front, hopened, hfront⟩ := opening_of_withoutOpening operand.toList
    obtain ⟨back, hclosed, hback⟩ := closing_of_withoutClosing (withoutOpening operand.toList)
    refine ⟨front, back, ?_, hfront, ?_⟩
    · rw [String.toList_ofList, List.append_assoc, ← hclosed]
      exact hopened
    · rw [String.toList_ofList]
      exact hback

/-- A parenthesis on one side only is taken off, and a second one stays. -/
example : unwrapped "((1,2" = "(1,2" ∧ unwrapped "1,2))" = "1,2)" := by
  decide

/-- The operand of `in` lists values: what is left of it without its parentheses is read between
brackets. -/
def Lists (operand : String) (read : Except Json.ReadError (List Json.Value)) : Prop :=
  ∃ inner, Bares operand inner ∧ Json.readValues (Text.bytes ("[" ++ inner ++ "]")) = read

theorem lists_iff {operand : String} {read : Except Json.ReadError (List Json.Value)} :
    Lists operand read ↔ Json.readValues (Text.bytes (listText operand)) = read := by
  constructor
  · rintro ⟨inner, hbares, hread⟩
    rw [listText, bares_iff.mp hbares]
    exact hread
  · exact fun hread => ⟨unwrapped operand, bares_iff.mpr rfl, hread⟩

/-! ## Names of operators -/

/-- The operators that compare a column with the operand as it stands, each with its form in a
statement. -/
def comparisons : List (String × String) :=
  [("eq", "="), ("neq", "!="), ("gt", ">"), ("ge", ">="), ("lt", "<"), ("le", "<="),
    ("like", "LIKE"), ("ilike", "ILIKE")]

/-- The words after `is`, each with its value. -/
def isWords : List (String × Json.Value) :=
  [("null", .null), ("true", .bool true), ("false", .bool false)]

/-- The clause on a column that a name of an operator and an operand make. -/
inductive Reads (column : String) : String → String → Clause → Prop where
  | compares {name sql operand : String} (listed : (name, sql) ∈ comparisons) :
      Reads column name operand ⟨column ++ " " ++ sql ++ " ?", [.string operand]⟩
  | names {operand word : String} {value : Json.Value} (listed : (word, value) ∈ isWords)
      (same : Text.sameLetters operand word = true) :
      Reads column "is" operand ⟨column ++ " IS ?", [value]⟩
  | lists {operand : String} {values : List Json.Value} (read : Lists operand (.ok values))
      (some_value : values ≠ []) :
      Reads column "in" operand
        ⟨column ++ " IN (" ++ Text.joined "," (values.map fun _ => "?") ++ ")", values⟩

theorem mem_comparisons {operator : Operator} {sql : String} :
    (operator.name, sql) ∈ comparisons ↔
      sql = operator.sql ∧ operator ≠ .isIn ∧ operator ≠ .is := by
  cases operator <;> simp [comparisons, Operator.name, Operator.sql]

theorem isValue?_eq_some {operand : String} {value : Json.Value} :
    isValue? operand = some value ↔
      ∃ word, (word, value) ∈ isWords ∧ Text.sameLetters operand word = true := by
  -- No two of the words have the same letters, so the first one that fits is the only one.
  have hapart : ∀ word word', Text.sameLetters operand word = true →
      Text.sameLetters operand word' = true → Text.lower word = Text.lower word' := by
    intro word word' h h'
    exact (beq_iff_eq.mp h).symm.trans (beq_iff_eq.mp h')
  unfold isValue? isWords
  constructor
  · intro h
    split at h
    · rename_i hnull
      cases h
      exact ⟨"null", by simp, hnull⟩
    · split at h
      · rename_i htrue
        cases h
        exact ⟨"true", by simp, htrue⟩
      · split at h
        · rename_i hfalse
          cases h
          exact ⟨"false", by simp, hfalse⟩
        · cases h
  · rintro ⟨word, hword, hsame⟩
    simp only [List.mem_cons, Prod.mk.injEq, List.not_mem_nil, or_false] at hword
    rcases hword with ⟨rfl, rfl⟩ | ⟨rfl, rfl⟩ | ⟨rfl, rfl⟩
    · rw [if_pos hsame]
    · rw [if_neg fun h => absurd (hapart _ _ h hsame) (by decide), if_pos hsame]
    · rw [if_neg fun h => absurd (hapart _ _ h hsame) (by decide),
        if_neg fun h => absurd (hapart _ _ h hsame) (by decide), if_pos hsame]

theorem places_eq (values : List Json.Value) :
    places values.length = Text.joined "," (values.map fun _ => "?") := by
  rw [places, List.map_const']

theorem clause_is (column : String) (value : Json.Value) :
    Condition.clause (.compares column .is value) = ⟨column ++ " IS ?", [value]⟩ := by
  simp [Condition.clause, Operator.sql, String.append_assoc]

/-- An operator makes the clause of its name. -/
theorem makes_iff_reads {operator : Operator} {column operand : String} {clause : Clause} :
    (∃ condition : Condition, operator.Makes column operand condition ∧
      condition.clause = clause) ↔ Reads column operator.name operand clause := by
  constructor
  · rintro ⟨condition, hmakes, rfl⟩
    cases hmakes with
    | compares simple => exact .compares (mem_comparisons.mpr ⟨rfl, simple⟩)
    | names named =>
      obtain ⟨word, hword, hsame⟩ := isValue?_eq_some.mp named
      rw [clause_is]
      exact .names hword hsame
    | @lists _ values listed some =>
      rw [Condition.clause, places_eq]
      exact .lists (lists_iff.mpr listed) some
  · intro h
    generalize hname : operator.name = name at h
    cases h with
    | compares listed =>
      subst hname
      obtain ⟨rfl, simple⟩ := mem_comparisons.mp listed
      exact ⟨_, .compares simple, rfl⟩
    | @names _ word value listed same =>
      obtain rfl : operator = .is := Operator.eq_of_name_eq hname
      exact ⟨_, .names (isValue?_eq_some.mpr ⟨word, listed, same⟩), clause_is column value⟩
    | @lists _ values read some_value =>
      obtain rfl : operator = .isIn := Operator.eq_of_name_eq hname
      refine ⟨_, .lists (lists_iff.mp read) some_value, ?_⟩
      rw [Condition.clause, places_eq]

theorem comparisons_eq : comparisons =
    (Operator.all.filter fun operator => operator ≠ .isIn ∧ operator ≠ .is).map
      fun operator => (operator.name, operator.sql) := by
  decide

theorem exists_operator {column name operand : String} {clause : Clause}
    (h : Reads column name operand clause) : ∃ operator : Operator, operator.name = name := by
  cases h with
  | compares listed =>
    rw [comparisons_eq] at listed
    obtain ⟨operator, _, heq⟩ := List.mem_map.mp listed
    exact ⟨operator, (Prod.mk.inj heq).1⟩
  | names _ _ => exact ⟨.is, rfl⟩
  | lists _ _ => exact ⟨.isIn, rfl⟩

/-! ## What becomes of a filter -/

/-- The value of a filter is written as the name of an operator, a point, and an operand that is
not empty. All that comes after the first point is operand. -/
def IsFilter (column raw : String) (clause : Clause) : Prop :=
  ∃ name operand, raw = name ++ "." ++ operand ∧ '.' ∉ name.toList ∧ operand ≠ "" ∧
    Reads column name operand clause

theorem parse_eq_ok_some_iff_isFilter {column raw : String} {clause : Clause} :
    parse column raw = .ok (some clause) ↔ IsFilter column raw clause := by
  rw [parse_eq_ok_some]
  constructor
  · rintro ⟨condition, ⟨operator, operand, hraw, hoperand, hmakes⟩, hclause⟩
    exact ⟨operator.name, operand, hraw, point_not_mem_name operator, hoperand,
      makes_iff_reads.mp ⟨condition, hmakes, hclause⟩⟩
  · rintro ⟨name, operand, hraw, _, hoperand, hreads⟩
    obtain ⟨operator, rfl⟩ := exists_operator hreads
    obtain ⟨condition, hmakes, hclause⟩ := makes_iff_reads.mpr hreads
    exact ⟨condition, ⟨operator, operand, hraw, hoperand, hmakes⟩, hclause⟩

/-- The value of a filter is a list that is no JSON. -/
def IsGarbled (raw : String) (e : Json.ReadError) : Prop :=
  ∃ operand, raw = "in." ++ operand ∧ Lists operand (.error e)

theorem written_isIn (operand : String) : written .isIn operand = "in." ++ operand :=
  rfl

theorem written_is (operand : String) : written .is operand = "is." ++ operand :=
  rfl

/-- An operator refuses an operand as a list that is no JSON, or else it tells the filter. -/
theorem clause_refused {operator : Operator} {column operand : String} {fault : Fault}
    (h : Filter.clause operator column operand = .error fault) :
    (operator = .isIn ∧ ∃ e, Lists operand (.error e) ∧ fault = .decode e) ∨
      fault = .unsupportedOperator (written operator operand) := by
  unfold Filter.clause at h
  split at h
  · unfold inClause at h
    split at h
    · rename_i e hread
      cases h
      exact .inl ⟨rfl, e, lists_iff.mpr hread, rfl⟩
    · cases h
      exact .inr (congrArg _ (written_isIn operand).symm)
    · cases h
  · unfold isClause at h
    split at h
    · cases h
    · cases h
      exact .inr (congrArg _ (written_is operand).symm)
  · cases h

theorem parse_refused {column raw : String} {fault : Fault}
    (h : parse column raw = .error fault) :
    (∃ e, IsGarbled raw e ∧ fault = .decode e) ∨ fault = .unsupportedOperator raw := by
  unfold parse at h
  split at h
  · cases h
  · split at h
    · cases h
      exact .inr rfl
    · rename_i name operand hcut
      split at h
      · cases h
        exact .inr rfl
      · split at h
        · cases h
          exact .inr rfl
        · rename_i operator hname
          have hraw : raw = written operator operand := (cutAt_written hname).mp hcut
          rcases clause_refused (map_eq_error.mp h) with ⟨rfl, e, hread, hfault⟩ | hfault
          · exact .inl ⟨e, ⟨operand, hraw.trans (written_isIn operand), hread⟩, hfault⟩
          · exact .inr (hraw ▸ hfault)

/-- No list is garbled by being empty. -/
theorem not_lists_empty (e : Json.ReadError) : ¬ Lists "" (.error e) := by
  rw [lists_iff]
  have hread : Json.readValues (Text.bytes (listText "")) = .ok [] := by rfl
  rw [hread]
  exact fun h => nomatch h

theorem parse_eq_decode {column raw : String} {e : Json.ReadError} :
    parse column raw = .error (.decode e) ↔ IsGarbled raw e := by
  constructor
  · intro h
    rcases parse_refused h with ⟨e', hgarbled, heq⟩ | heq
    · cases heq
      exact hgarbled
    · cases heq
  · rintro ⟨operand, rfl, hread⟩
    have hoperand : operand ≠ "" := by
      rintro rfl
      exact not_lists_empty e hread
    have hclause : Filter.clause .isIn column operand = .error (.decode e) := by
      change inClause column operand = _
      rw [inClause, lists_iff.mp hread]
    rw [← written_isIn, parse_written hoperand, hclause]
    rfl

/-! ## The law -/

/-- A filter is read by its grammar. An empty one has no clause, and a filter that is written as
the grammar says has the clause of its operator: the operand is bound as it stands, or as the
word or the values that it means. A list that is no JSON is told as such. All else is told back
as it was written. -/
theorem a_filter_is_read_by_its_grammar (column raw : String) :
    (parse column raw = .ok none ↔ raw = "") ∧
    (∀ clause, parse column raw = .ok (some clause) ↔ IsFilter column raw clause) ∧
    (∀ e, parse column raw = .error (.decode e) ↔ IsGarbled raw e) ∧
    ∀ text, parse column raw = .error (.unsupportedOperator text) ↔ text = raw ∧ raw ≠ "" ∧
      (∀ clause, ¬ IsFilter column raw clause) ∧ ∀ e, ¬ IsGarbled raw e := by
  refine ⟨parse_eq_ok_none, fun clause => parse_eq_ok_some_iff_isFilter,
    fun e => parse_eq_decode, fun text => ⟨fun h => ?_, ?_⟩⟩
  · have htext : text = raw := by
      rcases parse_refused h with ⟨_, _, heq⟩ | heq
      · cases heq
      · cases heq
        rfl
    refine ⟨htext, fun hempty => ?_, fun clause hfilter => ?_, fun e hgarbled => ?_⟩
    · cases h.symm.trans (parse_eq_ok_none.mpr hempty)
    · cases h.symm.trans (parse_eq_ok_some_iff_isFilter.mpr hfilter)
    · cases h.symm.trans (parse_eq_decode.mpr hgarbled)
  · rintro ⟨rfl, hne, hfilter, hgarbled⟩
    -- There are four ways for a filter to go, and three of them are left out.
    cases hparse : parse column text with
    | ok clause? =>
      cases clause? with
      | none => exact absurd (parse_eq_ok_none.mp hparse) hne
      | some clause => exact absurd (parse_eq_ok_some_iff_isFilter.mp hparse) (hfilter clause)
    | error fault =>
      rcases parse_refused hparse with ⟨e, he, _⟩ | heq
      · exact absurd he (hgarbled e)
      · rw [heq]

end Filter

end TableGateway

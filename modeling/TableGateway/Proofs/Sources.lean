import TableGateway.Proofs.Bodies
import TableGateway.Proofs.FilterGrammar
import TableGateway.Proofs.Storing

-- The laws of sources. Each value of a statement has its place, and so has the part of the request
-- that it was read from: the bytes of a member in the body, or those of an item in a list. Read by
-- themselves, the bytes at a place give the value at this place.

namespace TableGateway

open Fallible

/-! ## Lists side by side -/

theorem getLast?_related {α β : Type} {R : α → β → Prop} {l : List α} {l' : List β}
    (h : List.Forall₂ R l l') : Option.Rel R l.getLast? l'.getLast? := by
  induction h with
  | nil => exact .none
  | cons hab hrest ih =>
    cases hrest with
    | nil => exact .some hab
    | cons _ _ => simpa [List.getLast?_cons_cons] using ih

namespace Json

/-! ## Readers side by side -/

/-- Where one reader gives something, another one gives something that goes with it, and leaves as
much. -/
def Alongside {α β : Type} (R : α → β → Prop) (reading : Reading α) (other : Reading β) : Prop :=
  ∀ text a rest, reading text = .ok (a, rest) → ∃ b, other text = .ok (b, rest) ∧ R a b

section Items

variable {α β : Type} {R : α → β → Prop} {item : Reading α} {other : Reading β}

theorem alongside_readItems (each : Alongside R item other) {fuel : Nat} {read items : List α}
    {read' : List β} {text rest : List UInt8} (before : List.Forall₂ R read read')
    (h : readItems item fuel read text = .ok (items, rest)) :
    ∃ items', readItems other fuel read' text = .ok (items', rest) ∧
      List.Forall₂ R items items' := by
  induction fuel generalizing read read' text with
  | zero => cases h
  | succ fuel ih =>
    obtain ⟨a, left, ha, hmore⟩ := readItems_eq_ok.mp h
    obtain ⟨b, hb, hab⟩ := each _ _ _ ha
    have hread : List.Forall₂ R (a :: read) (b :: read') := .cons hab before
    rcases hmore with ⟨hmark, rfl⟩ | ⟨tail, c, next, hmark, hnext, hlast, hmore⟩
    · exact ⟨_, readItems_eq_ok.mpr ⟨b, left, hb, .inl ⟨hmark, rfl⟩⟩, List.rel_reverse hread⟩
    · obtain ⟨items', hitems', hrelated⟩ := ih hread hmore
      exact ⟨items', readItems_eq_ok.mpr
        ⟨b, left, hb, .inr ⟨tail, c, next, hmark, hnext, hlast, hitems'⟩⟩, hrelated⟩

theorem alongside_readArray (each : Alongside R item other) :
    Alongside (List.Forall₂ R) (readArray item) (readArray other) := by
  intro text items rest h
  rcases readArray_eq_ok.mp h with ⟨hmark, rfl⟩ | ⟨b, inner, hmark, hclose, hitems⟩
  · exact ⟨[], readArray_eq_ok.mpr (.inl ⟨hmark, rfl⟩), .nil⟩
  · obtain ⟨items', hitems', hrelated⟩ := alongside_readItems each .nil hitems
    exact ⟨items', readArray_eq_ok.mpr (.inr ⟨b, inner, hmark, hclose, hitems'⟩), hrelated⟩

/-- Members go together that have one name, and values that go together. -/
def SameName (R : α → β → Prop) (member : String × α) (member' : String × β) : Prop :=
  member.1 = member'.1 ∧ R member.2 member'.2

theorem alongside_readMember (each : Alongside R item other) :
    Alongside (SameName R) (readMember item) (readMember other) := by
  intro text member rest h
  obtain ⟨⟨name, left⟩, hname, h⟩ := bind_eq_ok.mp h
  obtain ⟨⟨_, left'⟩, hcolon, h⟩ := bind_eq_ok.mp h
  obtain ⟨⟨a, left''⟩, ha, h⟩ := bind_eq_ok.mp h
  cases h
  obtain ⟨b, hb, hab⟩ := each _ _ _ ha
  refine ⟨(name, b), ?_, rfl, hab⟩
  exact bind_eq_ok.mpr ⟨_, hname, bind_eq_ok.mpr ⟨_, hcolon, bind_eq_ok.mpr ⟨_, hb, rfl⟩⟩⟩

theorem alongside_readMembers (each : Alongside R item other) {fuel : Nat}
    {read members : List (String × α)} {read' : List (String × β)} {text rest : List UInt8}
    (before : List.Forall₂ (SameName R) read read')
    (h : readMembers item fuel read text = .ok (members, rest)) :
    ∃ members', readMembers other fuel read' text = .ok (members', rest) ∧
      List.Forall₂ (SameName R) members members' := by
  induction fuel generalizing read read' text with
  | zero => cases h
  | succ fuel ih =>
    obtain ⟨member, left, hmember, hmore⟩ := readMembers_eq_ok.mp h
    obtain ⟨member', hmember', hsame⟩ := alongside_readMember each _ _ _ hmember
    have hread : List.Forall₂ (SameName R) (member :: read) (member' :: read') := .cons hsame before
    rcases hmore with ⟨hmark, rfl⟩ | ⟨tail, next, hmark, hnext, hmore⟩
    · exact ⟨_, readMembers_eq_ok.mpr ⟨member', left, hmember', .inl ⟨hmark, rfl⟩⟩,
        List.rel_reverse hread⟩
    · obtain ⟨members', hmembers', hrelated⟩ := ih hread hmore
      exact ⟨members', readMembers_eq_ok.mpr
        ⟨member', left, hmember', .inr ⟨tail, next, hmark, hnext, hmembers'⟩⟩, hrelated⟩

theorem alongside_readObject (each : Alongside R item other) :
    Alongside (List.Forall₂ (SameName R)) (readObject item) (readObject other) := by
  intro text members rest h
  unfold readObject at h ⊢
  split at h
  · cases h
  · split_ifs at h ⊢ with hclose hquote
    · cases h
      exact ⟨[], rfl, .nil⟩
    · exact alongside_readMembers each .nil h

theorem alongside_readList {item : Nat → Reading α} {other : Nat → Reading β} {depth : Nat}
    (each : ∀ inner < depth, Alongside R (item inner) (other inner)) :
    Alongside (List.Forall₂ R) (readList item depth) (readList other depth) := by
  intro text list rest h
  obtain ⟨inner, depth', rfl, hmark, harray⟩ := readList_eq_ok.mp h
  obtain ⟨list', harray', hrelated⟩ :=
    alongside_readArray (each depth' (Nat.lt_succ_self depth')) _ _ _ harray
  exact ⟨list', readList_eq_ok.mpr ⟨inner, depth', rfl, hmark, harray'⟩, hrelated⟩

theorem alongside_readAll (each : Alongside R item other) {text : List UInt8} {a : α}
    (h : readAll item text = .ok a) : ∃ b, readAll other text = .ok b ∧ R a b := by
  obtain ⟨rest, ha, hblank⟩ := readAll_eq_ok.mp h
  obtain ⟨b, hb, hab⟩ := each _ _ _ ha
  exact ⟨b, readAll_eq_ok.mpr ⟨rest, hb, hblank⟩, hab⟩

end Items

/-! ## Sources -/

/-- The bytes that a reader takes, from the first one that is not blank. -/
def source {α : Type} (reading : Reading α) : Reading (List UInt8) := fun text => do
  let (_, rest) ← reading text
  .ok (skipSpace (text.take (text.length - rest.length)), rest)

/-- The source of a value is read as this value, by itself. -/
theorem alongside_source {depth : Nat} (h : depth ≤ maxDepth) :
    Alongside (fun v text => read text = .ok v) (readValue depth) (source (readValue depth)) := by
  intro text v rest hv
  obtain ⟨taken, rfl, htaken⟩ := local_readNested Members.ofList h _ _ _ hv
  have halone : readValue maxDepth (taken ++ []) = .ok (v, []) :=
    htaken [] (.inr endsNumeral_nil)
  rw [List.append_nil] at halone
  have htake : (taken ++ rest).take ((taken ++ rest).length - rest.length) = taken := by
    rw [List.length_append, Nat.add_sub_cancel]
    exact List.take_left
  refine ⟨skipSpace taken, ?_, ?_⟩
  · refine bind_eq_ok.mpr ⟨_, hv, ?_⟩
    simp only [htake]
  · exact readAll_eq_ok.mpr ⟨[], (readNested_skipSpace Members.ofList _ _).trans halone, rfl⟩

/-- The members of an object as they stand in its text: each name with the source of its value. -/
def rowSources : Nat → Reading (List (String × List UInt8))
  | 0, text => refuse "a map" text
  | depth + 1, text =>
    match skipSpace text with
    | [] => .error ⟨.valueEnds, 0⟩
    | b :: rest =>
      if b = Text.byte openBrace then readObject (source (readValue depth)) rest
      else refuse "a map" (b :: rest)

/-- Sources are those of the members of a row. The last one of a name counts. -/
def RowFrom (row : Members) (sources : List (String × List UInt8)) : Prop :=
  ∃ members, row = Members.ofList members ∧
    List.Forall₂ (SameName fun v text => read text = .ok v) members sources

theorem alongside_rowSources {depth : Nat} (h : depth ≤ maxDepth) :
    Alongside RowFrom (readRow depth) (rowSources depth) := by
  intro text row rest hrow
  obtain ⟨inner, depth', members, rfl, hmark, hmembers, rfl⟩ := readRow_eq_ok.mp hrow
  obtain ⟨sources, hsources, hrelated⟩ :=
    alongside_readObject (alongside_source (Nat.le_of_succ_le h)) _ _ _ hmembers
  refine ⟨sources, ?_, members, rfl, hrelated⟩
  simp only [rowSources, hmark, if_true]
  exact hsources

/-- A value comes from its source. What has none is no number. -/
inductive ComesFrom : Value → Option (List UInt8) → Prop where
  | read {v : Value} {text : List UInt8} (reads : read text = .ok v) : ComesFrom v (some text)
  | none {v : Value} (other : ∀ n, v ≠ .number n) : ComesFrom v none

end Json

/-! ## Sources of cells -/

namespace Payload

/-- The rows of a body as they stand in its text. -/
def sources (body : List UInt8) : List (List (String × List UInt8)) :=
  if startsArray body then
    (Json.readAll (Json.readList Json.rowSources Json.maxDepth) body).toOption.getD []
  else ((Json.readAll (Json.rowSources Json.maxDepth) body).toOption.map fun row => [row]).getD []

/-- The names in all rows, each once, in order. -/
def sourceColumns (rows : List (List (String × List UInt8))) : List String :=
  Text.inOrder (rows.flatMap fun row => row.map Prod.fst)

/-- The source of a cell: that of the last member with the name of the column. -/
def cellSource (row : List (String × List UInt8)) (column : String) : Option (List UInt8) :=
  (Json.Schema.membersOf column row).getLast?.map Prod.snd

theorem sources_of_ofJson {body : List UInt8} {payload : Payload} (h : ofJson body = .ok payload) :
    List.Forall₂ Json.RowFrom payload.rows (sources body) := by
  have hrow {depth : Nat} (hdepth : depth ≤ Json.maxDepth) := Json.alongside_rowSources hdepth
  unfold ofJson at h
  unfold sources
  by_cases harray : startsArray body
  · rw [if_pos harray] at h ⊢
    split at h
    · rename_i rows hrows
      cases h
      obtain ⟨found, hfound, hrelated⟩ := Json.alongside_readAll
        (Json.alongside_readList fun inner hinner => hrow (Nat.le_of_lt hinner)) hrows
      rw [hfound]
      exact hrelated
    · cases h
  · rw [if_neg harray] at h ⊢
    split at h
    · rename_i row hone
      cases h
      obtain ⟨found, hfound, hrelated⟩ := Json.alongside_readAll (hrow (Nat.le_refl _)) hone
      rw [hfound]
      exact .cons hrelated .nil
    · cases h

theorem names_of_rowFrom {row : Json.Members} {sources : List (String × List UInt8)}
    (h : Json.RowFrom row sources) (name : String) :
    name ∈ row.names ↔ name ∈ sources.map Prod.fst := by
  obtain ⟨members, rfl, hrelated⟩ := h
  have hnames : members.map Prod.fst = sources.map Prod.fst := by
    induction hrelated with
    | nil => rfl
    | cons hsame _ ih => rw [List.map_cons, List.map_cons, hsame.1, ih]
  rw [Json.Members.names_ofList, Text.mem_inOrder, hnames]

theorem columns_of_sources {rows : List Json.Members} {sources : List (List (String × List UInt8))}
    (h : List.Forall₂ Json.RowFrom rows sources) :
    columns ⟨rows⟩ = sourceColumns sources := by
  apply Text.inOrder_congr
  intro name
  induction h with
  | nil => rfl
  | cons hrow _ ih =>
    simp only [List.flatMap_cons, List.mem_append, names_of_rowFrom hrow] at ih ⊢
    rw [ih]

theorem cell_comesFrom {row : Json.Members} {sources : List (String × List UInt8)}
    (h : Json.RowFrom row sources) (column : String) :
    Json.ComesFrom (cell row column) (cellSource sources column) := by
  obtain ⟨members, rfl, hrelated⟩ := h
  have hnamed : List.Forall₂ (Json.SameName fun v text => Json.read text = .ok v)
      (Json.Schema.membersOf column members) (Json.Schema.membersOf column sources) := by
    refine List.rel_filter ?_ hrelated
    intro member member' hsame
    simp [hsame.1]
  have hlast := getLast?_related hnamed
  unfold cell cellSource
  rw [Json.Members.get?_ofList]
  generalize (Json.Schema.membersOf column members).getLast? = last at hlast ⊢
  generalize (Json.Schema.membersOf column sources).getLast? = last' at hlast ⊢
  cases hlast with
  | none => exact .none nofun
  | some hsame => exact .read hsame.2

end Payload

namespace Request

/-- The sources of the cells of a body, row by row, in the order of all columns. -/
def cellSources (request : Request) : List (Option (List UInt8)) :=
  let rows := Payload.sources request.body
  rows.flatMap fun row => (Payload.sourceColumns rows).map (Payload.cellSource row)

theorem comeFrom_cells {request : Request} {payload : Payload}
    (h : Payload.ofRequest request = .ok payload) :
    List.Forall₂ Json.ComesFrom (payload.rows.flatMap fun row => payload.columns.map
      (Payload.cell row)) request.cellSources := by
  unfold Payload.ofRequest at h
  split_ifs at h
  have hrows := Payload.sources_of_ofJson h
  unfold cellSources
  rw [show payload.columns = Payload.sourceColumns (Payload.sources request.body) from
    Payload.columns_of_sources hrows]
  refine List.rel_flatMap hrows ?_
  intro row sources hrow
  rw [List.forall₂_map_left_iff, List.forall₂_map_right_iff]
  exact List.forall₂_same.mpr fun column _ => Payload.cell_comesFrom hrow column

end Request

/-! ## Sources of operands -/

namespace Filter

/-- The sources of the values of a filter: those of the items of a list. Other operands have
none. -/
def sources (raw : String) : List (Option (List UInt8)) :=
  if raw = "" then []
  else
    match Text.cutAt '.' raw with
    | none => []
    | some (name, operand) =>
      if name = Operator.isIn.name then
        ((Json.readAll (Json.readList (fun depth => Json.source (Json.readValue depth))
          Json.maxDepth) (Text.bytes (listText operand))).toOption.getD []).map some
      else [none]

theorem sources_written (operator : Operator) (operand : String) :
    sources (written operator operand) =
      if operator = .isIn then
        ((Json.readAll (Json.readList (fun depth => Json.source (Json.readValue depth))
          Json.maxDepth) (Text.bytes (listText operand))).toOption.getD []).map some
      else [none] := by
  have hcut : Text.cutAt '.' (written operator operand) = some (operator.name, operand) :=
    (cutAt_written (Operator.ofName?_eq_some.mpr rfl)).mpr rfl
  have hname : operator.name = Operator.isIn.name ↔ operator = .isIn :=
    ⟨Operator.eq_of_name_eq, congrArg _⟩
  unfold sources
  rw [if_neg (written_ne_empty operator operand), hcut]
  simp only [hname]

theorem comeFrom_clause {column raw : String} {clause? : Option Clause}
    (h : parse column raw = .ok clause?) :
    List.Forall₂ Json.ComesFrom ((clause?.map Clause.values).getD []) (sources raw) := by
  cases clause? with
  | none =>
    obtain rfl := parse_eq_ok_none.mp h
    exact .nil
  | some clause =>
    obtain ⟨_, ⟨operator, operand, hraw, _, hmakes⟩, rfl⟩ := parse_eq_ok_some.mp h
    simp only at hraw
    rw [hraw, sources_written]
    cases hmakes with
    | compares simple =>
      rw [if_neg simple.1]
      exact .cons (.none nofun) .nil
    | @names _ value named =>
      refine .cons (.none fun n hn => ?_) .nil
      obtain ⟨word, hword, _⟩ := isValue?_eq_some.mp named
      simp [isWords, hn] at hword
    | @lists _ values listed some =>
      obtain ⟨found, hfound, hrelated⟩ := Json.alongside_readAll
        (Json.alongside_readList fun inner hinner => Json.alongside_source (Nat.le_of_lt hinner))
        listed
      rw [if_pos rfl, hfound]
      exact List.forall₂_map_right_iff.mpr (hrelated.imp fun v text hread => .read hread)

end Filter

namespace Request

/-- The sources of the values of all filters, in the order of the conditions. -/
def filterSources (request : Request) : List (Option (List UInt8)) :=
  request.params.filters.flatMap fun pair => Filter.sources pair.2

theorem comeFrom_clauses {request : Request} {clauses : List Clause}
    (h : request.clauses = .ok clauses) :
    List.Forall₂ Json.ComesFrom (Statement.whereValues clauses) request.filterSources := by
  obtain ⟨parsed, hparsed, rfl⟩ := map_eq_ok.mp h
  have hvalues : Statement.whereValues (parsed.filterMap id) =
      parsed.flatMap fun clause? => (clause?.map Clause.values).getD [] := by
    unfold Statement.whereValues
    clear hparsed h
    induction parsed with
    | nil => rfl
    | cons clause? parsed ih =>
      cases clause? with
      | none => simpa using ih
      | some clause => simpa using ih
  rw [hvalues]
  exact List.rel_flatMap (mapM_eq_ok.mp hparsed).flip fun clause? pair hparse =>
    Filter.comeFrom_clause hparse

/-- The sources of all values of a statement, in the order of their places. -/
def sources (request : Request) : StatementKind → List (Option (List UInt8))
  | .insert => request.cellSources
  | .update | .updateSingleEntry => request.cellSources ++ request.filterSources
  | .select | .exactCount | .delete => request.filterSources

theorem comeFrom_update {request : Request} {table : String} {statement : Statement}
    (h : request.update table = .ok statement) :
    List.Forall₂ Json.ComesFrom statement.values
      (request.cellSources ++ request.filterSources) := by
  obtain ⟨row, clauses, hread, _, hclauses, rfl⟩ := update_eq_ok.mp h
  have hcells := comeFrom_cells hread
  rw [List.flatMap_singleton] at hcells
  exact List.rel_append hcells (comeFrom_clauses hclauses)

/-- Each value of a statement comes from the source at its place. -/
theorem comeFrom_compile {request : Request} {known : Option (List String)}
    {kind : StatementKind} {table : String} {statement : Statement}
    (h : request.compile known kind table = .ok statement) :
    List.Forall₂ Json.ComesFrom statement.values (request.sources kind) := by
  cases kind with
  | insert =>
    obtain ⟨_, payload, _, _, hpayload, _, rfl⟩ := insert_eq_ok.mp h
    have hcells := comeFrom_cells (insertPayload_eq_ok.mp hpayload).1
    rwa [List.flatMap_def] at hcells
  | update => exact comeFrom_update h
  | updateSingleEntry => exact comeFrom_update (updateSingleEntry_eq_ok.mp h).1
  | select =>
    obtain ⟨clauses, _, _, hclauses, _, _, rfl⟩ := select_eq_ok.mp h
    exact comeFrom_clauses hclauses
  | exactCount =>
    obtain ⟨clauses, hclauses, rfl⟩ := exactCount_eq_ok.mp h
    exact comeFrom_clauses hclauses
  | delete =>
    obtain ⟨clauses, hclauses, rfl⟩ := delete_eq_ok.mp h
    exact comeFrom_clauses hclauses

end Request

end TableGateway

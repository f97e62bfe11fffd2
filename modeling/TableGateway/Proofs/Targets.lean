import TableGateway.Proofs.Changes
import TableGateway.Proofs.Conflicts
import TableGateway.Proofs.Statements

-- The targets of conflicts. The columns that an insert names for its conflicts go into the
-- text of its statement, and so they are confined to the columns of the table, as the gateway
-- asked for them just before.

namespace TableGateway

open Fallible

namespace Conflict

/-! ## Identifiers -/

/-- A letter from A to Z in either case, or an underscore. -/
def OpensIdentifier (c : Char) : Prop :=
  'A' ≤ c ∧ c ≤ 'Z' ∨ 'a' ≤ c ∧ c ≤ 'z' ∨ c = '_'

/-- An identifier, from its first character to its last. -/
def IsIdentifier (name : String) : Prop :=
  ∃ first rest, name.toList = first :: rest ∧ OpensIdentifier first ∧
    ∀ c ∈ rest, OpensIdentifier c ∨ '0' ≤ c ∧ c ≤ '9'

theorem isAlpha_iff {c : Char} : c.isAlpha = true ↔ ('A' ≤ c ∧ c ≤ 'Z') ∨ 'a' ≤ c ∧ c ≤ 'z' := by
  change (decide (_ ∧ _) || (decide _ && decide _)) = true ↔ _
  simp only [Bool.or_eq_true, Bool.and_eq_true, decide_eq_true_eq]
  rfl

theorem isDigit_iff {c : Char} : c.isDigit = true ↔ '0' ≤ c ∧ c ≤ '9' := by
  change (decide _ && decide _) = true ↔ _
  simp only [Bool.and_eq_true, decide_eq_true_eq]
  rfl

theorem isNameStart_iff {c : Char} : isNameStart c = true ↔ OpensIdentifier c := by
  unfold isNameStart OpensIdentifier
  rw [Bool.or_eq_true, isAlpha_iff, beq_iff_eq, or_assoc]

theorem isNameChar_iff {c : Char} :
    isNameChar c = true ↔ OpensIdentifier c ∨ '0' ≤ c ∧ c ≤ '9' := by
  rw [← isNameStart_iff]
  unfold isNameChar isNameStart Char.isAlphanum
  simp only [Bool.or_eq_true, isDigit_iff]
  exact or_right_comm

/-- The plain names are the identifiers. -/
theorem isPlainName_iff {name : String} : isPlainName name = true ↔ IsIdentifier name := by
  unfold isPlainName IsIdentifier
  cases name.toList with
  | nil => simp
  | cons first rest =>
    simp only [Bool.and_eq_true, List.all_eq_true, isNameStart_iff, isNameChar_iff]
    constructor
    · rintro ⟨hfirst, hrest⟩
      exact ⟨first, rest, rfl, hfirst, hrest⟩
    · rintro ⟨_, _, heq, hfirst, hrest⟩
      cases heq
      exact ⟨hfirst, hrest⟩

/-! ## Columns that are refused -/

theorem given_of_names {request : Request} (h : names request ≠ []) :
    ∃ raw, request.params.given? conflictKey = some raw := by
  unfold names at h
  cases hgiven : request.params.given? conflictKey with
  | none =>
    rw [hgiven] at h
    exact absurd rfl h
  | some raw => exact ⟨raw, rfl⟩

theorem names_of_given {request : Request} {raw : String}
    (given : request.params.given? conflictKey = some raw) :
    names request = Text.pieces ',' raw := by
  unfold names
  rw [given]
  rfl

/-- A name is a target in a table with some columns. -/
def IsTarget (columns : List String) (name : String) : Prop :=
  IsIdentifier name ∧ name ∈ columns

/-- The words for a name that is no target. -/
def refusal (name : String) : String :=
  (if isPlainName name then "unknown on_conflict column: " else "invalid on_conflict column: ") ++
    name

theorem checkName_known {columns : List String} {name : String} :
    checkName (some columns) name = .ok () ↔ IsTarget columns name := by
  rw [checkName_eq_ok, isPlainName_iff]
  simp [IsTarget]

theorem checkName_refused {columns : List String} {name : String}
    (h : ¬ IsTarget columns name) :
    checkName (some columns) name = .error (.badRequest (refusal name)) := by
  unfold IsTarget at h
  rw [← isPlainName_iff] at h
  unfold checkName refusal
  cases hplain : isPlainName name with
  | false => rfl
  | true => simp [not_and.mp h hplain]

/-- The first column that is no target is named. -/
theorem columns_refused {request : Request} {columns before after : List String} {name : String}
    (hnames : names request = before ++ name :: after)
    (hbefore : ∀ column ∈ before, IsTarget columns column) (hname : ¬ IsTarget columns name) :
    Conflict.columns request (some columns) = .error (.badRequest (refusal name)) := by
  have hne : names request ≠ [] := by simp [hnames]
  obtain ⟨raw, given⟩ := given_of_names hne
  rw [names_of_given given] at hnames
  unfold Conflict.columns
  rw [given]
  simp only [map_eq_error, forM_eq_error]
  exact ⟨before, name, after, hnames, fun column h => checkName_known.mpr (hbefore column h),
    checkName_refused hname⟩

/-! ## The list in the text -/

theorem action_head {resolution : Resolution} {payloadColumns : List String} {action : String}
    (h : action? resolution payloadColumns = some action) : ∃ rest, action = " do " ++ rest := by
  cases resolution with
  | none => cases h
  | ignoreDuplicates =>
    cases h
    exact ⟨"nothing", rfl⟩
  | mergeDuplicates =>
    cases h
    exact ⟨"update set " ++ _, by rw [← String.append_assoc]; rfl⟩

theorem action_eq_none {resolution : Resolution} {payloadColumns : List String} :
    action? resolution payloadColumns = none ↔ resolution = .none := by
  cases resolution <;> simp [action?]

/-- An insert ends without a conflict, or with one that names no columns, or with one that names
those of the request, and then each of them was checked. -/
theorem suffix_cases {request : Request} {known : Option (List String)}
    {resolution : Resolution} {payloadColumns : List String} {text : String}
    (h : suffix request known resolution payloadColumns = .ok text) :
    (resolution = .none ∧ text = "") ∨
    (names request = [] ∧ ∃ rest, text = " on conflict do " ++ rest) ∨
    (names request ≠ [] ∧ (∀ name ∈ names request, checkName known name = .ok ()) ∧
      ∃ rest, text = " on conflict (" ++ Text.joined ", " (names request) ++ ")" ++ rest) := by
  rcases suffix_eq_ok.mp h with ⟨hnone, rfl⟩ | ⟨action, columns, haction, hcolumns, rfl⟩
  · exact .inl ⟨action_eq_none.mp hnone, rfl⟩
  · obtain ⟨rfl, hcheck⟩ := columns_eq_ok.mp hcolumns
    obtain ⟨rest, rfl⟩ := action_head haction
    right
    by_cases hnil : names request = []
    · refine .inl ⟨hnil, rest, ?_⟩
      rw [hnil, ← String.append_assoc]
      rfl
    · refine .inr ⟨hnil, hcheck, " do " ++ rest, ?_⟩
      rw [target, if_neg (mt List.isEmpty_iff.mp hnil)]
      simp only [← String.append_assoc]
      rfl

theorem not_mem_list {known : Option (List String)} {names : List String}
    (h : ∀ name ∈ names, checkName known name = .ok ()) :
    ')' ∉ (Text.joined ", " names).toList := by
  refine Text.not_mem_joined (by decide) fun name hname hmem => ?_
  exact absurd (isNameChar_of_isPlainName (checkName_eq_ok.mp (h name hname)).1 hmem) (by decide)

/-- Two texts that go on after a bracket are one up to it. -/
theorem eq_of_closed {s t rest rest' : String} (hs : ')' ∉ s.toList) (ht : ')' ∉ t.toList)
    (h : s ++ ")" ++ rest = t ++ ")" ++ rest') : s = t :=
  (Text.eq_of_marked ')' hs ht (by simpa using congrArg String.toList h)).1

/-- A list in the end of an insert is that of the columns of the conflict, which were checked. -/
theorem list_of_suffix {request : Request} {known : Option (List String)}
    {resolution : Resolution} {payloadColumns : List String} {list rest : String}
    (h : suffix request known resolution payloadColumns =
      .ok (" on conflict (" ++ list ++ ")" ++ rest)) (closed : ')' ∉ list.toList) :
    names request ≠ [] ∧ list = Text.joined ", " (names request) ∧
      ∀ name ∈ names request, checkName known name = .ok () := by
  rcases suffix_cases h with ⟨_, htext⟩ | ⟨_, rest', htext⟩ | ⟨hnames, hcheck, rest', htext⟩
  · exact absurd (congrArg String.toList htext) (by simp)
  · exact absurd (congrArg String.toList htext) (by simp)
  · simp only [String.append_assoc, String.append_right_inj] at htext
    simp only [← String.append_assoc] at htext
    exact ⟨hnames, eq_of_closed closed (not_mem_list hcheck) htext, hcheck⟩

end Conflict

/-! ## Inserts that carry a list -/

/-- An insert carries a list of the columns of a conflict, which comes after its rows. The rows
end before it: in them, the names of the table and of the payload stand as they are given. -/
def Request.Carries (request : Request) (table : String) (statement : Statement)
    (list : String) : Prop :=
  ∃ payload rest, request.insertPayload = .ok payload ∧ ')' ∉ list.toList ∧
    statement.text =
      (insertRows table payload).text ++ (" on conflict (" ++ list ++ ")" ++ rest)

/-- The list that an insert carries is that of the columns of the conflict, which were checked. -/
theorem Request.Carries.list_eq {request : Request} {known : Option (List String)}
    {table list : String} {statement : Statement} (carries : request.Carries table statement list)
    (compiles : request.insert known table = .ok statement) :
    Conflict.names request ≠ [] ∧ list = Text.joined ", " (Conflict.names request) ∧
      ∀ name ∈ Conflict.names request, Conflict.checkName known name = .ok () := by
  obtain ⟨payload, rest, hpayload, closed, htext⟩ := carries
  obtain ⟨preference, payload', suffix, _, hpayload', hsuffix, rfl⟩ := insert_eq_ok.mp compiles
  cases hpayload.symm.trans hpayload'
  obtain rfl := (String.append_right_inj _).mp htext
  exact Conflict.list_of_suffix hsuffix closed

/-- After its rows an insert carries a list, if nothing else comes there: it ends where nothing
is wished, and it names no columns where the request names none. -/
theorem Request.insert_ending {request : Request} {known : Option (List String)} {table : String}
    {statement : Statement} (compiles : request.insert known table = .ok statement) :
    ∃ preference payload, Preference.ofRequest request = .ok preference ∧
      request.insertPayload = .ok payload ∧
      (preference.resolution = .none ∧ statement.text = (insertRows table payload).text ∨
        (Conflict.names request = [] ∧ ∃ rest,
          statement.text = (insertRows table payload).text ++ (" on conflict do " ++ rest)) ∨
        ∃ list, request.Carries table statement list) := by
  obtain ⟨preference, payload, suffix, hpreference, hpayload, hsuffix, rfl⟩ :=
    insert_eq_ok.mp compiles
  refine ⟨preference, payload, hpreference, hpayload, ?_⟩
  rcases Conflict.suffix_cases hsuffix with ⟨hnone, rfl⟩ | ⟨hnames, rest, rfl⟩ |
    ⟨_, hcheck, rest, rfl⟩
  · exact .inl ⟨hnone, String.append_empty⟩
  · exact .inr (.inl ⟨hnames, rest, rfl⟩)
  · exact .inr (.inr ⟨_, payload, rest, hpayload, Conflict.not_mem_list hcheck, rfl⟩)

/-- Where something is wished, no insert has a column that is no target. -/
theorem Request.targets_of_insert {request : Request} {columns : List String} {table : String}
    {statement : Statement} {preference : Preference}
    (compiles : request.insert (some columns) table = .ok statement)
    (hpreference : Preference.ofRequest request = .ok preference)
    (wished : preference.resolution ≠ .none) :
    ∀ name ∈ Conflict.names request, Conflict.IsTarget columns name := by
  obtain ⟨preference', payload, suffix, hpreference', _, hsuffix, _⟩ := insert_eq_ok.mp compiles
  cases hpreference.symm.trans hpreference'
  rcases Conflict.suffix_cases hsuffix with ⟨hnone, _⟩ | ⟨hnames, _⟩ | ⟨_, hcheck, _⟩
  · exact absurd hnone wished
  · rw [hnames]
    exact fun _ hmem => absurd hmem List.not_mem_nil
  · exact fun name hname => Conflict.checkName_known.mp (hcheck name hname)

/-- The first column that is no target is named, if nothing is refused before. -/
theorem Request.insert_refused {request : Request} {columns before after : List String}
    {table name : String} {preference : Preference} {payload : Payload}
    (hpreference : Preference.ofRequest request = .ok preference)
    (wished : preference.resolution ≠ .none) (hpayload : request.insertPayload = .ok payload)
    (hnames : Conflict.names request = before ++ name :: after)
    (hbefore : ∀ column ∈ before, Conflict.IsTarget columns column)
    (hname : ¬ Conflict.IsTarget columns name) :
    request.insert (some columns) table = .error (.badRequest (Conflict.refusal name)) := by
  have hsuffix : Conflict.suffix request (some columns) preference.resolution payload.columns =
      .error (.badRequest (Conflict.refusal name)) := by
    unfold Conflict.suffix
    split
    · exact absurd (Conflict.action_eq_none.mp ‹_›) wished
    · rw [Conflict.columns_refused hnames hbefore hname]
      rfl
  unfold insert
  rw [hpreference, hpayload]
  simp only [bind, Except.bind, hsuffix]

/-! ## Inserts that go through the gateway -/

namespace Http

open Conflict

/-- What is known of the columns where columns of a conflict are named. -/
theorem knownColumns_of_given {db : Backend} {past : List Call} {request : Request}
    {table raw : String} {known : Option (List String)}
    (given : request.params.given? conflictKey = some raw) :
    knownColumns db past request .insert table = .ok known ↔
      ∃ columns, db.tableColumns past table = .ok columns ∧ known = some columns := by
  unfold knownColumns asksColumns
  rw [given]
  change ((db.tableColumns past table).map some).mapError Fault.database = .ok known ↔ _
  simp only [mapError_eq_ok, map_eq_ok, @eq_comm _ known]

theorem callsBefore_of_given {request : Request} {table raw : String}
    (given : request.params.given? conflictKey = some raw) :
    callsBefore request .insert table = [.tableColumns table] := by
  unfold callsBefore asksColumns
  rw [given]
  rfl

/-- Where a request names columns, those of the table are known before its statement is made. -/
theorem columns_of_names {db : Backend} {past : List Call} {request : Request} {table : String}
    {known : Option (List String)}
    (knows : knownColumns db past request .insert table = .ok known) (hnames : names request ≠ []) :
    ∃ columns, db.tableColumns past table = .ok columns ∧ known = some columns := by
  obtain ⟨raw, given⟩ := given_of_names hnames
  exact (knownColumns_of_given given).mp knows

namespace Gateway.Change

variable {gateway : Gateway} {around : Surroundings} {message : Message} {table : String}
  {answer : Answer} {body : List UInt8} {statement : Statement}

/-- A statement that is run was made of the request, with what is known of the columns. -/
theorem insert_of_execute (h : gateway.Change around message .insert table answer)
    (hmem : .execute statement ∈ answer.calls)
    (letIn : gateway.LetsIn around message .insert table body) :
    ∃ known, knownColumns around.db around.past (message.request body) .insert table = .ok known ∧
      (message.request body).insert known table = .ok statement := by
  obtain ⟨body', letIn', compiles⟩ := (h.execute_mem_iff statement).mp hmem
  obtain rfl := letIn.unique letIn'
  exact bind_eq_ok.mp compiles

/-- A statement that is run ends with its rows, leaves the columns open, or carries a list. -/
theorem ending_of_execute (h : gateway.Change around message .insert table answer)
    (hmem : .execute statement ∈ answer.calls) :
    ∃ body preference payload, gateway.LetsIn around message .insert table body ∧
      Preference.ofRequest (message.request body) = .ok preference ∧
      (message.request body).insertPayload = .ok payload ∧
      (preference.resolution = .none ∧
          statement.text = (Request.insertRows table payload).text ∨
        (names (message.request body) = [] ∧ ∃ rest, statement.text =
          (Request.insertRows table payload).text ++ (" on conflict do " ++ rest)) ∨
        ∃ list, (message.request body).Carries table statement list) := by
  obtain ⟨body, letIn, _⟩ := (h.execute_mem_iff statement).mp hmem
  obtain ⟨known, _, compiles⟩ := h.insert_of_execute hmem letIn
  obtain ⟨preference, payload, ending⟩ := Request.insert_ending compiles
  exact ⟨body, preference, payload, letIn, ending⟩

/-- A list that is run is that of the pieces of the first value, and all of them are targets in the
table as it was asked for just before. -/
theorem list_of_execute {list : String} (h : gateway.Change around message .insert table answer)
    (letIn : gateway.LetsIn around message .insert table body)
    (hmem : .execute statement ∈ answer.calls)
    (carries : (message.request body).Carries table statement list) :
    ∃ raw columns, (message.request body).params.given? conflictKey = some raw ∧
      list = Text.joined ", " (Text.pieces ',' raw) ∧
      answer.calls = [.tableColumns table, .execute statement] ∧
      around.db.tableColumns around.past table = .ok columns ∧
      ∀ name ∈ Text.pieces ',' raw, IsTarget columns name := by
  obtain ⟨known, knows, compiles⟩ := h.insert_of_execute hmem letIn
  obtain ⟨hnames, hlist, hcheck⟩ := carries.list_eq compiles
  obtain ⟨raw, given⟩ := given_of_names hnames
  obtain ⟨columns, hcolumns, rfl⟩ := (knownColumns_of_given given).mp knows
  rw [names_of_given given] at hlist hcheck
  refine ⟨raw, columns, given, hlist, ?_, hcolumns, fun name hname =>
    checkName_known.mp (hcheck name hname)⟩
  rw [h.calls_of_execute letIn hmem, callsBefore_of_given given]
  rfl

/-- Where something is wished and a piece is no target, nothing is run. -/
theorem no_execute_of_violation {raw name : String} {preference : Preference}
    (h : gateway.Change around message .insert table answer)
    (given : (message.request body).params.given? conflictKey = some raw)
    (hpreference : Preference.ofRequest (message.request body) = .ok preference)
    (wished : preference.resolution ≠ .none) (hname : name ∈ Text.pieces ',' raw)
    (violates : ∀ columns, around.db.tableColumns around.past table = .ok columns →
      ¬ IsTarget columns name) : .execute statement ∉ answer.calls := by
  intro hmem
  obtain ⟨body', letIn, _⟩ := (h.execute_mem_iff statement).mp hmem
  -- Neither the parameters nor the wishes of a request depend on its body.
  replace given : (message.request body').params.given? conflictKey = some raw := given
  replace hpreference : Preference.ofRequest (message.request body') = .ok preference :=
    hpreference
  obtain ⟨known, knows, compiles⟩ := h.insert_of_execute hmem letIn
  obtain ⟨columns, hcolumns, rfl⟩ := (knownColumns_of_given given).mp knows
  have targets := Request.targets_of_insert compiles hpreference wished
  rw [names_of_given given] at targets
  exact violates columns hcolumns (targets name hname)

/-- The first piece that is no target is named, if nothing is refused before. -/
theorem names_first_violation {raw name : String} {preference : Preference} {payload : Payload}
    {columns before after : List String} (h : gateway.Change around message .insert table answer)
    (letIn : gateway.LetsIn around message .insert table body)
    (given : (message.request body).params.given? conflictKey = some raw)
    (hcolumns : around.db.tableColumns around.past table = .ok columns)
    (hpreference : Preference.ofRequest (message.request body) = .ok preference)
    (wished : preference.resolution ≠ .none)
    (hpayload : (message.request body).insertPayload = .ok payload)
    (hpieces : Text.pieces ',' raw = before ++ name :: after)
    (hbefore : ∀ column ∈ before, IsTarget columns column) (hname : ¬ IsTarget columns name) :
    answer.response = .ofFault (.badRequest (refusal name)) ∧
      answer.calls = [.tableColumns table] := by
  have hrefused : (message.request body).insert (some columns) table =
      .error (.badRequest (refusal name)) :=
    Request.insert_refused hpreference wished hpayload ((names_of_given given).trans hpieces)
      hbefore hname
  have knows : knownColumns around.db around.past (message.request body) .insert table =
      .ok (some columns) :=
    (knownColumns_of_given given).mpr ⟨columns, hcolumns, rfl⟩
  have fails : changeStatement around.db around.past (message.request body) .insert table =
      .error (.badRequest (refusal name)) :=
    bind_eq_error.mpr (.inr ⟨_, knows, hrefused⟩)
  obtain ⟨hresponse, hcalls⟩ := h.of_fault letIn fails
  exact ⟨hresponse, hcalls.trans (callsBefore_of_given given)⟩

end Gateway.Change

/-! ## The law -/

/-- The columns of a conflict are columns of the table. A statement that is run ends with its
rows, or it carries a list of columns, or it leaves the columns open because the request names
none. A list is that of the pieces of the first value for it, and each of them is an identifier
and a column of the table, as the database told just before. Where something is wished and a
piece is neither, nothing is run, and the first such piece is named if nothing is refused
before. No columns are named in a text before those of the table are known. -/
theorem Gateway.conflicts_name_columns_of_the_table (gateway : Gateway) (around : Surroundings)
    (message : Message) (table : String)
    (route : Route.ofMessage? message = some (.table .insert table)) :
    let answer := gateway.answer around message
    (∀ statement, .execute statement ∈ answer.calls → ∃ body preference payload,
      gateway.LetsIn around message .insert table body ∧
      Preference.ofRequest (message.request body) = .ok preference ∧
      (message.request body).insertPayload = .ok payload ∧
      (preference.resolution = .none ∧
          statement.text = (Request.insertRows table payload).text ∨
        (names (message.request body) = [] ∧ ∃ rest, statement.text =
          (Request.insertRows table payload).text ++ (" on conflict do " ++ rest)) ∨
        ∃ list, (message.request body).Carries table statement list)) ∧
    (∀ body statement list, gateway.LetsIn around message .insert table body →
      .execute statement ∈ answer.calls →
      (message.request body).Carries table statement list →
      ∃ raw columns, (message.request body).params.given? conflictKey = some raw ∧
        list = Text.joined ", " (Text.pieces ',' raw) ∧
        answer.calls = [.tableColumns table, .execute statement] ∧
        around.db.tableColumns around.past table = .ok columns ∧
        ∀ name ∈ Text.pieces ',' raw, IsIdentifier name ∧ name ∈ columns) ∧
    (∀ body raw preference name,
      (message.request body).params.given? conflictKey = some raw →
      Preference.ofRequest (message.request body) = .ok preference →
      preference.resolution ≠ .none → name ∈ Text.pieces ',' raw →
      (∀ columns, around.db.tableColumns around.past table = .ok columns →
        ¬ IsIdentifier name ∨ name ∉ columns) →
      (∀ statement, .execute statement ∉ answer.calls) ∧ 400 ≤ answer.response.status) ∧
    (∀ body raw preference payload columns before name after,
      gateway.LetsIn around message .insert table body →
      (message.request body).params.given? conflictKey = some raw →
      around.db.tableColumns around.past table = .ok columns →
      Preference.ofRequest (message.request body) = .ok preference →
      preference.resolution ≠ .none → (message.request body).insertPayload = .ok payload →
      Text.pieces ',' raw = before ++ name :: after →
      (∀ column ∈ before, IsIdentifier column ∧ column ∈ columns) →
      ¬ IsIdentifier name ∨ name ∉ columns →
      answer.response = .ofFault (.badRequest (refusal name)) ∧
      answer.calls = [.tableColumns table]) ∧
    (∀ body known,
      knownColumns around.db around.past (message.request body) .insert table = .ok known →
      names (message.request body) ≠ [] →
      ∃ columns, around.db.tableColumns around.past table = .ok columns ∧
        known = some columns) := by
  intro answer
  have hchange : gateway.Change around message .insert table answer :=
    change_of_route route (by decide)
  refine ⟨fun statement hmem => hchange.ending_of_execute hmem,
    fun body statement list letIn hmem carries => hchange.list_of_execute letIn hmem carries,
    ?_, ?_, fun body known knows hnames => columns_of_names knows hnames⟩
  · intro body raw preference name given hpreference wished hname violates
    have none (statement : Statement) : .execute statement ∉ answer.calls :=
      hchange.no_execute_of_violation given hpreference wished hname fun columns hcolumns =>
        not_and_or.mpr (violates columns hcolumns)
    exact ⟨none, hchange.error_of_no_execute none⟩
  · intro body raw preference payload columns before name after letIn given hcolumns hpreference
      wished hpayload hpieces hbefore violates
    exact hchange.names_first_violation letIn given hcolumns hpreference wished hpayload hpieces
      hbefore (not_and_or.mpr violates)

/-- Two inserts into one table. The first names columns of it, and the second ends in a comma. -/
theorem a_comma_at_the_end_is_refused :
    let db : Backend :=
      { query := fun _ _ => .ok []
        execute := fun _ _ => .ok 1
        count := fun _ _ => .ok 0
        tableColumns := fun _ _ => .ok ["id", "name"] }
    let gateway : Gateway := ⟨⟨["pets"]⟩, .disabled, none⟩
    let around : Surroundings := { now := 0, db }
    let body := Text.bytes "\x7b\"id\": 1\x7d"
    let insertion (target : String) : Message :=
      { method := "POST", target, body,
        headers := [("prefer", "resolution=ignore-duplicates"),
          ("content-type", "application/json")] }
    let sound := gateway.answer around (insertion "/pets?on_conflict=id,name")
    let broken := gateway.answer around (insertion "/pets?on_conflict=id,")
    (∃ statement, sound.calls = [.tableColumns "pets", .execute statement] ∧ statement.text =
      "insert into pets (id) values (?) on conflict (id, name) do nothing") ∧
    broken.calls = [.tableColumns "pets"] ∧
    broken.response = .ofFault (.badRequest "invalid on_conflict column: ") := by
  intro db gateway around body insertion sound broken
  obtain ⟨_, carried, _⟩ := Gateway.conflicts_name_columns_of_the_table gateway around
    (insertion "/pets?on_conflict=id,name") "pets" (by decide +kernel)
  obtain ⟨_, _, _, refused, _⟩ := Gateway.conflicts_name_columns_of_the_table gateway around
    (insertion "/pets?on_conflict=id,") "pets" (by decide +kernel)
  have letIn : gateway.LetsIn around (insertion "/pets?on_conflict=id,name") .insert "pets"
      body := ⟨by decide, rfl, by decide +kernel⟩
  have letIn' : gateway.LetsIn around (insertion "/pets?on_conflict=id,") .insert "pets"
      body := ⟨by decide, rfl, by decide +kernel⟩
  have rows : (((insertion "/pets?on_conflict=id,name").request body).insertPayload.toOption.map
      fun payload => (Request.insertRows "pets" payload).text) =
      some "insert into pets (id) values (?)" := by decide +kernel
  have isRead : (((insertion "/pets?on_conflict=id,").request body).insertPayload.toOption.map
      fun _ => ()) = some () := by decide +kernel
  obtain ⟨payload, hpayload, htext⟩ := toOption_map_eq_some.mp rows
  obtain ⟨payload', hpayload', _⟩ := toOption_map_eq_some.mp isRead
  refine ⟨?_, And.symm (refused body "id," ⟨.none, .ignoreDuplicates⟩ payload'
    ["id", "name"] ["id"] "" [] letIn' (by decide +kernel) rfl (by decide +kernel) (by decide)
    hpayload' (by decide +kernel) ?_ (.inr (by decide)))⟩
  · have hlast : sound.calls.getLast?.bind
        (fun | .execute statement => some statement.text | _ => none) =
        some "insert into pets (id) values (?) on conflict (id, name) do nothing" := by
      decide +kernel
    obtain ⟨call, hcall, hstatement⟩ := Option.bind_eq_some_iff.mp hlast
    cases call with
    | query | count | tableColumns => cases hstatement
    | execute statement =>
      have hstatement := Option.some.inj hstatement
      obtain ⟨_, _, _, _, hcalls, _⟩ := carried _ statement "id, name" letIn
        (List.mem_of_getLast? hcall)
        ⟨payload, " do nothing", hpayload, by decide, by rw [hstatement, htext]; decide⟩
      exact ⟨statement, hcalls, hstatement⟩
  · intro column hmem
    cases List.mem_singleton.mp hmem
    exact ⟨isPlainName_iff.mp (by decide), by decide⟩

end Http

end TableGateway

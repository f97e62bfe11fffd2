import TableGateway.Proofs.Characters
import TableGateway.Proofs.Outcomes

-- The laws of routes. A request on the path of an open table reaches that table by every method,
-- but for one: asking for the table of the name `health` is the health check.

namespace TableGateway

/-! ## Percent signs -/

namespace Query

/-- Bytes without a percent sign stand for themselves. -/
theorem percentDecoded_of_free {keep : UInt8 → Bool} {bytes : List UInt8}
    (free : Text.byte '%' ∉ bytes) : percentDecoded keep bytes = bytes := by
  fun_induction percentDecoded keep bytes with
  | case1 => rfl
  | case2 b c rest byte hbyte ih => exact absurd List.mem_cons_self free
  | case3 b c rest hnone ih => exact absurd List.mem_cons_self free
  | case4 a b c rest hother ih => rw [ih (List.not_mem_of_not_mem_cons free)]
  | case5 a rest hshort ih => rw [ih (List.not_mem_of_not_mem_cons free)]

/-- A text without a percent sign stands for itself, whatever may be decoded. -/
theorem decoded_of_free {keep : UInt8 → Bool} {s : String} (free : '%' ∉ s.toList) :
    Utf8.lossy (percentDecoded keep (Text.bytes s)) = s := by
  rw [percentDecoded_of_free (Text.byte_not_mem_bytes (by decide) free), Utf8.lossy_bytes]

end Query

namespace Http

/-! ## Names in paths -/

/-- A name of letters, digits and underscores. -/
def IsWord (name : String) : Prop :=
  name ≠ "" ∧ ∀ c ∈ name.toList, c.isAlphanum = true ∨ c = '_'

-- Only the characters of the name are looked at, not all that there are.
instance (name : String) : Decidable (IsWord name) :=
  decidable_of_iff (name ≠ "" ∧ name.toList.all fun c => c.isAlphanum || c == '_')
    (by simp [IsWord])

theorem IsWord.not_mem {name : String} (word : IsWord name) {c : Char}
    (other : c.isAlphanum = false) (line : c ≠ '_') : c ∉ name.toList := by
  intro hmem
  rcases word.2 c hmem with h | h
  · rw [other] at h
    cases h
  · exact line h

namespace Route

theorem segment?_of_free {name : String} (named : name ≠ "") (free : '/' ∉ name.toList) :
    segment? ("/" ++ name) = some name := by
  have hpath : ("/" ++ name).toList = '/' :: name.toList := by
    rw [String.toList_append]
    rfl
  have hnot : (name.toList.isEmpty || name.toList.contains '/') = false := by
    simp [named, free]
  unfold segment?
  rw [hpath]
  simp only [hnot, Bool.false_eq_true, if_false, String.ofList_toList]

/-- The methods of requests on tables, with the kinds of their statements. -/
def methods : List (String × StatementKind) :=
  [("GET", .select), ("POST", .insert), ("PATCH", .update), ("PUT", .updateSingleEntry),
    ("DELETE", .delete)]

theorem kind?_of_mem {method : String} {kind : StatementKind} (h : (method, kind) ∈ methods) :
    kind? method = some kind := by
  have hall : ∀ entry ∈ methods, kind? entry.1 = some entry.2 := by decide
  exact hall _ h

theorem get_iff_of_mem {method : String} {kind : StatementKind} (h : (method, kind) ∈ methods) :
    method = "GET" ↔ kind = .select := by
  have hall : ∀ entry ∈ methods, entry.1 = "GET" ↔ entry.2 = .select := by decide
  exact hall _ h

/-- The path of a name leads to the table of the name, and the health path to the health check
where it is asked for. -/
theorem find?_of_word {method table : String} {kind : StatementKind}
    (asks : (method, kind) ∈ methods) (word : IsWord table) :
    find? method ("/" ++ table) =
      if kind = .select ∧ table = "health" then some .health else some (.table kind table) := by
  have hpercent : '%' ∉ table.toList := word.not_mem (by decide) (by decide)
  have hslash : '/' ∉ table.toList := word.not_mem (by decide) (by decide)
  have hnormal : normalPath ("/" ++ table) = "/" ++ table := by
    apply Query.decoded_of_free
    rw [String.toList_append, List.mem_append, not_or]
    exact ⟨by decide, hpercent⟩
  have hhealth : "/" ++ table = healthPath ↔ table = "health" := by
    change "/" ++ table = "/" ++ "health" ↔ _
    exact String.append_right_inj "/"
  have hname : tableName table = table := Query.decoded_of_free hpercent
  unfold find?
  simp only [hnormal, get_iff_of_mem asks, hhealth]
  split_ifs with hcheck
  · rfl
  · rw [kind?_of_mem asks, segment?_of_free word.1 hslash]
    simp only [Option.bind_eq_bind, Option.bind_some, hname]

end Route

/-! ## Readings of whole tables -/

/-- A request without parameters and without a range reads all rows of a table. -/
theorem select_of_plain {request : Request} (noParams : request.params = {})
    (noRange : request.header? Request.rangeName = none) (table : String) :
    request.select table = .ok ⟨"select * from " ++ table, []⟩ := by
  have hclauses : request.clauses = .ok [] := by
    unfold Request.clauses
    rw [noParams]
    rfl
  have hcolumns : request.resultColumns = ["*"] := by
    unfold Request.resultColumns
    rw [noParams]
    rfl
  have hitems : request.orderItems = .ok [] := by
    unfold Request.orderItems
    rw [noParams]
    rfl
  have hpage : Page.ofRequest request = .ok none := by
    unfold Page.ofRequest
    rw [noRange, noParams]
    rfl
  refine Request.select_eq_ok.mpr ⟨[], [], none, hclauses, hitems, hpage, ?_⟩
  rw [hcolumns]
  simp [Text.joined, Statement.whereText, Statement.whereValues, Request.orderText,
    Request.pageText]

/-- Rows that are read for a client without wishes are the response. -/
theorem select_of_read {db : Backend} {past : List Call} {request : Request} {table : String}
    {statement : Statement} {rows : List Json.Value}
    (compiles : request.select table = .ok statement)
    (reads : db.query past statement = .ok rows)
    (noWishes : request.header? Request.preferName = none) :
    select db past request table =
      .answered (rowsResponse request rows unknownTotal) [.query statement] := by
  have wishes : Preference.ofRequest request = .ok {} := by
    rw [Preference.ofRequest, noWishes]
  unfold select
  simp only [compiles, reads, wishes]

/-- Reading rows that makes a statement asks for it first, and after it for counts only. -/
theorem Reading.calls_of_select {db : Backend} {past : List Call} {request : Request}
    {table : String} {outcome : Outcome} {statement : Statement}
    (h : Reading db past request table outcome) (compiles : request.select table = .ok statement) :
    ∃ rest, outcome.calls = .query statement :: rest ∧
      ∀ call ∈ rest, ∃ counting, call = .count counting := by
  cases h with
  | refused fails => cases compiles.symm.trans fails
  | unread compiles' _ | unwished compiles' _ _ | read compiles' _ _ _ =>
    cases compiles.symm.trans compiles'
    exact ⟨[], rfl, nofun⟩
  | @uncounted _ counting _ _ _ compiles' _ _ _ _ _
  | @counted _ counting _ _ _ compiles' _ _ _ _ _ =>
    cases compiles.symm.trans compiles'
    refine ⟨[.count counting], rfl, fun call hcall => ?_⟩
    exact ⟨counting, List.mem_singleton.mp hcall⟩

/-! ## The law -/

namespace Gateway

variable {gateway : Gateway} {around : Surroundings} {message : Message} {kind : StatementKind}
  {table : String}

theorem letsIn_of_disabled {body : List UInt8} (isOpen : table ∈ gateway.access.tables)
    (trusting : gateway.authenticator = .disabled) (read : bodyFor kind message = .ok body) :
    gateway.LetsIn around message kind table body := by
  refine ⟨isOpen, ?_, read⟩
  unfold verdict
  rw [trusting]
  rfl

/-- Without authentication, a request on the path of an open table is for that table, by every
method but one: asking for a table of the name `health` is the health check, which calls nothing.
Every other request whose body can be read gets the outcome of its endpoint on that table. Asking
for a table without parameters and without a range makes one query for all of its rows, and then
counts at most. Its rows are the response where the query succeeds and the client has no wishes. -/
theorem the_health_check_hides_one_table (gateway : Gateway)
    (around : Surroundings) (message : Message) (kind : StatementKind) (table : String)
    (asks : (message.method, kind) ∈ Route.methods) (word : IsWord table)
    (path : message.path = "/" ++ table) (isOpen : table ∈ gateway.access.tables)
    (trusting : gateway.authenticator = .disabled) :
    let answer := gateway.answer around message
    let request := message.request []
    let statement : Statement := ⟨"select * from " ++ table, []⟩
    Route.ofMessage? message =
      (if kind = .select ∧ table = "health" then some .health else some (.table kind table)) ∧
    (kind = .select → table = "health" → answer = ⟨healthResponse, [], gateway⟩) ∧
    (¬ (kind = .select ∧ table = "health") → ∀ body, bodyFor kind message = .ok body →
      ∃ after, answer =
        answered (onTable around.db around.past (message.request body) kind table) after) ∧
    (kind = .select → table ≠ "health" → message.query = "" →
      request.header? Request.rangeName = none →
      (∃ rest, answer.calls = .query statement :: rest ∧
        ∀ call ∈ rest, ∃ counting, call = .count counting) ∧
      ∀ rows, around.db.query around.past statement = .ok rows →
        request.header? Request.preferName = none →
        answer.calls = [.query statement] ∧
          answer.response = rowsResponse request rows unknownTotal) := by
  intro answer request statement
  have hroute : Route.ofMessage? message =
      if kind = .select ∧ table = "health" then some .health else some (.table kind table) := by
    rw [Route.ofMessage?, path, Route.find?_of_word asks word]
  refine ⟨hroute, fun hkind hname => ?_, fun hother body read => ?_,
    fun hkind hother noQuery noRange => ?_⟩
  · rw [if_pos ⟨hkind, hname⟩] at hroute
    exact answer_of_health hroute
  · rw [if_neg hother] at hroute
    exact answer_of_letsIn hroute (letsIn_of_disabled isOpen trusting read)
  · subst hkind
    rw [if_neg fun check => hother check.2] at hroute
    have noParams : request.params = {} := by
      change Params.ofQuery message.query = {}
      rw [noQuery]
      rfl
    have compiles : request.select table = .ok statement :=
      select_of_plain noParams noRange table
    have letIn : gateway.LetsIn around message .select table [] :=
      letsIn_of_disabled isOpen trusting rfl
    obtain ⟨after, heq⟩ := answer_of_letsIn hroute letIn
    change answer = _ at heq
    rw [heq, answered_calls, answered_response]
    refine ⟨(reading_of_onTable _ _ _ _).calls_of_select compiles, fun rows reads noWishes => ?_⟩
    change (select around.db around.past request table).calls = _ ∧
      responseOf (select around.db around.past request table).result = _
    rw [select_of_read compiles reads noWishes]
    exact ⟨rfl, rfl⟩

/-- A table of pets is reached, and its rows are read. -/
theorem pets_are_reached :
    let gateway : Gateway := ⟨⟨["pets"]⟩, .disabled, none⟩
    let around : Surroundings :=
      { now := 0, db := { query := fun _ _ => .ok [.null], execute := fun _ _ => .ok 0,
                          count := fun _ _ => .ok 1, tableColumns := fun _ _ => .ok [] } }
    let message : Message := { method := "GET", target := "/pets" }
    ("GET", .select) ∈ Route.methods ∧ IsWord "pets" ∧ message.path = "/" ++ "pets" ∧
      "pets" ∈ gateway.access.tables ∧ message.query = "" ∧
      (gateway.answer around message).calls = [.query ⟨"select * from pets", []⟩] ∧
      (gateway.answer around message).response =
        rowsResponse (message.request []) [.null] unknownTotal := by
  intro gateway around message
  have word : IsWord "pets" := by decide
  have path : message.path = "/" ++ "pets" := by decide +kernel
  have noQuery : message.query = "" := by decide +kernel
  obtain ⟨_, _, _, reads⟩ := the_health_check_hides_one_table
    gateway around message .select "pets" (by decide) word path (by decide) rfl
  obtain ⟨calls, response⟩ := (reads rfl (by decide) noQuery rfl).2 [.null] rfl rfl
  exact ⟨by decide, word, path, by decide, noQuery, calls, response⟩

/-- Asking for a table of the name `health` does not reach it, although it is open. -/
theorem health_is_not_read :
    ¬ ∀ (gateway : Gateway) (message : Message) (kind : StatementKind) (table : String),
      (message.method, kind) ∈ Route.methods → IsWord table → message.path = "/" ++ table →
      table ∈ gateway.access.tables → gateway.authenticator = .disabled →
      Route.ofMessage? message = some (.table kind table) := by
  intro always
  have hroute := always ⟨⟨["health"]⟩, .disabled, none⟩ { method := "GET", target := "/health" }
    .select "health" (by decide) (by decide) (by decide +kernel) (by decide) rfl
  exact absurd hroute (by decide +kernel)

end Gateway

end Http

end TableGateway

import TableGateway.Proofs.Admission
import TableGateway.Proofs.Fallible

-- The laws of changes. A request that changes rows reaches the database with one statement at
-- most, and it is told of a success exactly when that statement was carried out.

namespace TableGateway.Http

open Fallible

/-! ## Methods -/

/-- The kind of a request on a table is that of its method. -/
theorem Route.kind?_of_table {message : Message} {kind : StatementKind} {table : String}
    (route : ofMessage? message = some (.table kind table)) : kind? message.method = some kind := by
  unfold ofMessage? find? at route
  simp only [Option.bind_eq_bind] at route
  split_ifs at route
  · cases route
  · obtain ⟨kind', hkind, route⟩ := Option.bind_eq_some_iff.mp route
    obtain ⟨segment, _, heq⟩ := Option.bind_eq_some_iff.mp route
    cases heq
    exact hkind

/-! ## Before a change -/

/-- The columns of the table are asked for before an insert that names columns of a conflict. -/
def asksColumns (request : Request) (kind : StatementKind) : Bool :=
  kind == .insert && (request.params.given? conflictKey).isSome

/-- The calls that are made before a change. -/
def callsBefore (request : Request) (kind : StatementKind) (table : String) : List Call :=
  if asksColumns request kind then [.tableColumns table] else []

/-- What is known of the columns of a table before it is changed: all of them where they are
asked for, and nothing else. -/
def knownColumns (db : Backend) (past : List Call) (request : Request) (kind : StatementKind)
    (table : String) : Except Fault (Option (List String)) :=
  if asksColumns request kind then
    ((db.tableColumns past table).map some).mapError .database
  else .ok none

/-- The statement of a change. -/
def changeStatement (db : Backend) (past : List Call) (request : Request) (kind : StatementKind)
    (table : String) : Except Fault Statement := do
  request.compile (← knownColumns db past request kind table) kind table

/-- The status of a change that was made. -/
def changedStatus : StatementKind → Nat
  | .insert => 201
  | _ => 202

/-- Every change is one statement that is run, after the calls that it needs. -/
theorem onTable_of_change {kind : StatementKind} (change : kind ≠ .select) (db : Backend)
    (past : List Call) (request : Request) (table : String) :
    onTable db past request kind table =
      execute db past (callsBefore request kind table) (changedStatus kind)
        (changeStatement db past request kind table) := by
  cases kind with
  | select => exact absurd rfl change
  | exactCount | update | updateSingleEntry | delete => rfl
  | insert =>
    change insert db past request table = _
    unfold insert changeStatement knownColumns callsBefore asksColumns
    cases request.params.given? conflictKey with
    | none => rfl
    | some raw =>
      cases db.tableColumns past table with
      | error text => rfl
      | ok columns => rfl

theorem before_eq (request : Request) (kind : StatementKind) (table : String) :
    callsBefore request kind table = [] ∨
      kind = .insert ∧ callsBefore request kind table = [.tableColumns table] := by
  unfold callsBefore asksColumns
  cases kind with
  | insert => cases (request.params.given? conflictKey).isSome <;> simp
  | select | exactCount | update | updateSingleEntry | delete => exact .inl rfl

theorem execute_not_mem_before {request : Request} {kind : StatementKind} {table : String}
    {statement : Statement} : .execute statement ∉ callsBefore request kind table := by
  rcases before_eq request kind table with h | ⟨_, h⟩ <;> simp [h]

/-! ## How a change goes -/

/-- A request on a table is let in: the table is open, its sender is known, and its body can be
read. -/
structure Gateway.LetsIn (gateway : Gateway) (around : Surroundings) (message : Message)
    (kind : StatementKind) (table : String) (body : List UInt8) : Prop where
  isOpen : table ∈ gateway.access.tables
  isKnown : gateway.verdict around message = .ok ()
  isRead : bodyFor kind message = .ok body

theorem Gateway.LetsIn.unique {gateway : Gateway} {around : Surroundings} {message : Message}
    {kind : StatementKind} {table : String} {body body' : List UInt8}
    (h : gateway.LetsIn around message kind table body)
    (h' : gateway.LetsIn around message kind table body') : body = body' :=
  Except.ok.inj (h.isRead.symm.trans h'.isRead)

/-- The ways that a change may go, from the first refusal to the statement that is run. -/
inductive Gateway.Change (gateway : Gateway) (around : Surroundings) (message : Message)
    (kind : StatementKind) (table : String) : Answer → Prop where
  | turnedAway {response : Response} {after : Gateway} (error : 400 ≤ response.status)
      (outside : ∀ body, ¬ gateway.LetsIn around message kind table body) :
      Change gateway around message kind table ⟨response, [], after⟩
  | refused {body : List UInt8} {fault : Fault} {after : Gateway}
      (letIn : gateway.LetsIn around message kind table body)
      (fails : changeStatement around.db around.past (message.request body) kind table =
        .error fault) :
      Change gateway around message kind table
        ⟨.ofFault fault, callsBefore (message.request body) kind table, after⟩
  | failed {body : List UInt8} {statement : Statement} {text : String} {after : Gateway}
      (letIn : gateway.LetsIn around message kind table body)
      (compiles : changeStatement around.db around.past (message.request body) kind table =
        .ok statement)
      (fails : around.db.execute
        (around.past ++ callsBefore (message.request body) kind table) statement = .error text) :
      Change gateway around message kind table ⟨.ofFault (.database text),
        callsBefore (message.request body) kind table ++ [.execute statement], after⟩
  | made {body : List UInt8} {statement : Statement} {rows : Nat} {after : Gateway}
      (letIn : gateway.LetsIn around message kind table body)
      (compiles : changeStatement around.db around.past (message.request body) kind table =
        .ok statement)
      (runs : around.db.execute
        (around.past ++ callsBefore (message.request body) kind table) statement = .ok rows) :
      Change gateway around message kind table ⟨{ status := changedStatus kind },
        callsBefore (message.request body) kind table ++ [.execute statement], after⟩

theorem Fault.status_ge (fault : Fault) : 400 ≤ fault.status := by
  cases fault <;> simp [Fault.status]

theorem BodyFault.status_ge (fault : BodyFault) : 400 ≤ fault.status := by
  cases fault <;> simp [BodyFault.status]

theorem changedStatus_mem (kind : StatementKind) :
    200 ≤ changedStatus kind ∧ changedStatus kind < 300 := by
  cases kind <;> simp [changedStatus]

/-- An answer tells of a success. -/
def Answer.Succeeds (answer : Answer) : Prop :=
  200 ≤ answer.response.status ∧ answer.response.status < 300

theorem Answer.not_succeeds {answer : Answer} (error : 400 ≤ answer.response.status) :
    ¬ answer.Succeeds := by
  rintro ⟨_, low⟩
  omega

namespace Gateway

variable {gateway : Gateway} {around : Surroundings} {message : Message} {kind : StatementKind}
  {table : String}

/-- Each change goes one of these ways. -/
theorem change_of_route (route : Route.ofMessage? message = some (.table kind table))
    (change : kind ≠ .select) :
    gateway.Change around message kind table (gateway.answer around message) := by
  cases hbody : bodyFor kind message with
  | error fault =>
    rw [answer_of_unreadable route hbody]
    refine .turnedAway (BodyFault.status_ge fault) fun body letIn => ?_
    cases hbody.symm.trans letIn.isRead
  | ok body =>
    rw [answer_of_readable route hbody]
    by_cases hopen : table ∈ gateway.access.tables
    · cases hverdict : gateway.verdict around message with
      | error fault =>
        rw [answerTable_of_refused hopen hverdict]
        refine .turnedAway (Fault.status_ge fault) fun body letIn => ?_
        cases hverdict.symm.trans letIn.isKnown
      | ok u =>
        have letIn : gateway.LetsIn around message kind table body := ⟨hopen, hverdict, hbody⟩
        unfold answerTable
        rw [guard_of_open hopen, hverdict]
        simp only [onTable_of_change change, execute]
        cases hstatement : changeStatement around.db around.past (message.request body) kind table with
        | error fault => exact .refused letIn hstatement
        | ok statement =>
          cases hrun : around.db.execute
              (around.past ++ callsBefore (message.request body) kind table) statement with
          | error text =>
            simp only [hrun]
            exact .failed letIn hstatement hrun
          | ok rows =>
            simp only [hrun]
            exact .made letIn hstatement hrun
    · rw [answerTable_of_closed hopen]
      exact .turnedAway (by decide) fun body letIn => hopen letIn.isOpen

/-! ## What a change leaves behind -/

namespace Change

variable {answer : Answer}

theorem calls_eq (h : gateway.Change around message kind table answer) :
    ∃ before, (before = [] ∨ kind = .insert ∧ before = [.tableColumns table]) ∧
      (answer.calls = before ∨ ∃ statement, answer.calls = before ++ [.execute statement]) := by
  cases h with
  | turnedAway _ _ => exact ⟨[], .inl rfl, .inl rfl⟩
  | refused _ _ => exact ⟨_, before_eq _ _ _, .inl rfl⟩
  | failed _ _ _ => exact ⟨_, before_eq _ _ _, .inr ⟨_, rfl⟩⟩
  | made _ _ _ => exact ⟨_, before_eq _ _ _, .inr ⟨_, rfl⟩⟩

/-- A success is told exactly where a statement was run and carried out. -/
theorem succeeds_iff (h : gateway.Change around message kind table answer) :
    answer.Succeeds ↔ ∃ before statement rows, answer.calls = before ++ [.execute statement] ∧
      around.db.execute (around.past ++ before) statement = .ok rows := by
  cases h with
  | turnedAway error _ =>
    refine iff_of_false (Answer.not_succeeds error) ?_
    rintro ⟨before, statement, _, hcalls, _⟩
    exact List.append_ne_nil_of_right_ne_nil before (List.cons_ne_nil _ _) hcalls.symm
  | @refused body fault _ _ _ =>
    refine iff_of_false (Answer.not_succeeds (Fault.status_ge fault)) ?_
    rintro ⟨before, statement, _, hcalls, _⟩
    have hmem : .execute statement ∈ before ++ [.execute statement] := by simp
    exact execute_not_mem_before (hcalls ▸ hmem)
  | @failed _ _ text _ _ _ fails =>
    refine iff_of_false (Answer.not_succeeds (Fault.status_ge (.database text))) ?_
    rintro ⟨before, statement, rows, hcalls, hrun⟩
    obtain ⟨rfl, hlast⟩ := List.append_inj' hcalls rfl
    cases hlast
    cases fails.symm.trans hrun
  | made _ _ runs => exact iff_of_true (changedStatus_mem kind) ⟨_, _, _, rfl, runs⟩

theorem response_eq (h : gateway.Change around message kind table answer)
    (succeeds : answer.Succeeds) : answer.response = { status := changedStatus kind } := by
  cases h with
  | turnedAway error _ => exact absurd succeeds (Answer.not_succeeds error)
  | @refused _ fault _ _ _ =>
    exact absurd succeeds (Answer.not_succeeds (Fault.status_ge fault))
  | @failed _ _ text _ _ _ _ =>
    exact absurd succeeds (Answer.not_succeeds (Fault.status_ge (.database text)))
  | made _ _ _ => rfl

/-- A statement is run exactly where the request is let in and becomes that statement. -/
theorem execute_mem_iff (h : gateway.Change around message kind table answer)
    (statement : Statement) : .execute statement ∈ answer.calls ↔
      ∃ body, gateway.LetsIn around message kind table body ∧
        changeStatement around.db around.past (message.request body) kind table =
          .ok statement := by
  cases h with
  | turnedAway _ outside =>
    constructor
    · intro hmem
      exact absurd hmem List.not_mem_nil
    · rintro ⟨body, letIn, _⟩
      exact absurd letIn (outside body)
  | refused letIn fails =>
    constructor
    · intro hmem
      exact absurd hmem execute_not_mem_before
    · rintro ⟨body', letIn', compiles⟩
      obtain rfl := letIn.unique letIn'
      cases fails.symm.trans compiles
  | failed letIn compiles _ | made letIn compiles _ =>
    constructor
    · intro hmem
      rcases List.mem_append.mp hmem with hmem | hmem
      · exact absurd hmem execute_not_mem_before
      · cases List.mem_singleton.mp hmem
        exact ⟨_, letIn, compiles⟩
    · rintro ⟨body', letIn', compiles'⟩
      obtain rfl := letIn.unique letIn'
      cases compiles.symm.trans compiles'
      exact List.mem_append_right _ (List.mem_singleton_self _)

/-- A statement that is run is the last call. -/
theorem calls_of_execute {body : List UInt8} {statement : Statement}
    (h : gateway.Change around message kind table answer)
    (letIn : gateway.LetsIn around message kind table body)
    (hmem : .execute statement ∈ answer.calls) :
    answer.calls = callsBefore (message.request body) kind table ++ [.execute statement] := by
  cases h with
  | turnedAway _ outside => exact absurd letIn (outside body)
  | refused _ _ => exact absurd hmem execute_not_mem_before
  | failed letIn' _ _ | made letIn' _ _ =>
    obtain rfl := letIn.unique letIn'
    rcases List.mem_append.mp hmem with hmem | hmem
    · exact absurd hmem execute_not_mem_before
    · cases List.mem_singleton.mp hmem
      rfl

/-- Where no statement is run, an error is told. -/
theorem error_of_no_execute (h : gateway.Change around message kind table answer)
    (none : ∀ statement, .execute statement ∉ answer.calls) : 400 ≤ answer.response.status := by
  cases h with
  | turnedAway error _ => exact error
  | @refused _ fault _ _ _ => exact Fault.status_ge fault
  | failed _ _ _ | made _ _ _ =>
    exact absurd (List.mem_append_right _ (List.mem_singleton_self _)) (none _)

/-- A request that is not let in leaves no call behind. -/
theorem of_outside (h : gateway.Change around message kind table answer)
    (outside : ∀ body, ¬ gateway.LetsIn around message kind table body) :
    answer.calls = [] ∧ 400 ≤ answer.response.status := by
  cases h with
  | turnedAway error _ => exact ⟨rfl, error⟩
  | refused letIn _ => exact absurd letIn (outside _)
  | failed letIn _ _ => exact absurd letIn (outside _)
  | made letIn _ _ => exact absurd letIn (outside _)

/-- A request that becomes no statement leaves no more behind than the calls before it. -/
theorem of_fault {body : List UInt8} {fault : Fault}
    (h : gateway.Change around message kind table answer)
    (letIn : gateway.LetsIn around message kind table body)
    (fails : changeStatement around.db around.past (message.request body) kind table =
      .error fault) :
    answer.response = .ofFault fault ∧
      answer.calls = callsBefore (message.request body) kind table := by
  cases h with
  | turnedAway _ outside => exact absurd letIn (outside body)
  | refused letIn' fails' =>
    obtain rfl := letIn.unique letIn'
    cases fails.symm.trans fails'
    exact ⟨rfl, rfl⟩
  | failed letIn' compiles _ | made letIn' compiles _ =>
    obtain rfl := letIn.unique letIn'
    cases fails.symm.trans compiles

end Change

/-! ## The law -/

/-- The methods that change rows, each with the kind of its statements. -/
theorem kind_of_method (route : Route.ofMessage? message = some (.table kind table))
    (change : message.method ≠ "GET") :
    (message.method, kind) ∈ [("POST", StatementKind.insert), ("PATCH", .update),
      ("PUT", .updateSingleEntry), ("DELETE", .delete)] := by
  have hkind := Route.kind?_of_table route
  rw [Route.kind?, if_neg change] at hkind
  split_ifs at hkind with hpost hpatch hput hdelete
  · cases hkind
    simp [hpost]
  · cases hkind
    simp [hpatch]
  · cases hkind
    simp [hput]
  · cases hkind
    simp [hdelete]

/-- A change is made once or not at all. A request that changes rows makes at most one call
that runs a statement, and before it at most one for the columns, which only an insert makes.
It is told of a success, with nothing more, exactly where its statement was carried out. A
statement is run exactly where the request is let in and becomes that very statement. A request
that is refused, be it for its sender, for the columns or for what it says, has none run. -/
theorem a_change_is_made_once_or_not_at_all (gateway : Gateway) (around : Surroundings)
    (message : Message) (kind : StatementKind) (table : String)
    (route : Route.ofMessage? message = some (.table kind table))
    (change : message.method ≠ "GET") :
    let answer := gateway.answer around message
    (message.method, kind) ∈ [("POST", StatementKind.insert), ("PATCH", .update),
      ("PUT", .updateSingleEntry), ("DELETE", .delete)] ∧
    (∃ before, (before = [] ∨ message.method = "POST" ∧ before = [.tableColumns table]) ∧
      (answer.calls = before ∨ ∃ statement, answer.calls = before ++ [.execute statement])) ∧
    (answer.Succeeds ↔ ∃ before statement rows, answer.calls = before ++ [.execute statement] ∧
      around.db.execute (around.past ++ before) statement = .ok rows) ∧
    (answer.Succeeds →
      answer.response = { status := if message.method = "POST" then 201 else 202 }) ∧
    (∀ statement, .execute statement ∈ answer.calls ↔ ∃ body known,
      gateway.LetsIn around message kind table body ∧
      knownColumns around.db around.past (message.request body) kind table = .ok known ∧
      (message.request body).compile known kind table = .ok statement) ∧
    ((∀ body, ¬ gateway.LetsIn around message kind table body) →
      answer.calls = [] ∧ 400 ≤ answer.response.status) ∧
    (∀ body fault, gateway.LetsIn around message kind table body →
      changeStatement around.db around.past (message.request body) kind table = .error fault →
      answer.response = .ofFault fault ∧
      answer.calls = callsBefore (message.request body) kind table) := by
  intro answer
  have hkind := kind_of_method route change
  have hinsert : kind = .insert ↔ message.method = "POST" := by
    simp only [List.mem_cons, Prod.mk.injEq, List.not_mem_nil, or_false] at hkind
    rcases hkind with ⟨hm, rfl⟩ | ⟨hm, rfl⟩ | ⟨hm, rfl⟩ | ⟨hm, rfl⟩ <;> simp [hm]
  have hselect : kind ≠ .select := by
    rintro rfl
    simp at hkind
  have hchange : gateway.Change around message kind table answer := change_of_route route hselect
  refine ⟨hkind, ?_, hchange.succeeds_iff, ?_, ?_, hchange.of_outside,
    fun body fault letIn fails => hchange.of_fault letIn fails⟩
  · rw [← hinsert]
    exact hchange.calls_eq
  · intro h
    rw [hchange.response_eq h]
    simp only [← hinsert]
    cases kind <;> rfl
  · intro statement
    rw [hchange.execute_mem_iff]
    simp only [changeStatement, bind_eq_ok, exists_and_left]

/-- An insert and a removal in a database that is locked until its columns are asked for. -/
theorem an_insert_is_made_and_a_removal_is_not :
    let db : Backend :=
      { query := fun _ _ => .ok []
        execute := fun past _ => if past.isEmpty then .error "database is locked" else .ok 1
        count := fun _ _ => .ok 0
        tableColumns := fun _ _ => .ok ["id", "name"] }
    let gateway : Gateway := ⟨⟨["test"]⟩, .disabled, none⟩
    let around : Surroundings := { now := 0, db }
    let insertion : Message :=
      { method := "POST", target := "/test?on_conflict=id",
        headers := [("prefer", "resolution=ignore-duplicates"),
          ("content-type", "application/json")],
        body := Text.bytes "\x7b\"id\": 1\x7d" }
    let removal : Message := { method := "DELETE", target := "/test?id=eq.1" }
    (gateway.answer around insertion).response = { status := 201 } ∧
    (∃ statement, (gateway.answer around insertion).calls =
      [.tableColumns "test", .execute statement]) ∧
    ¬ (gateway.answer around removal).Succeeds ∧
    (∃ statement, (gateway.answer around removal).calls = [.execute statement]) := by
  intro db gateway around insertion removal
  obtain ⟨_, ⟨before, hbefore, hcalls⟩, _, hresponse, _⟩ :=
    a_change_is_made_once_or_not_at_all gateway around insertion .insert "test"
      (by decide +kernel) (by decide)
  obtain ⟨_, ⟨before', hbefore', hcalls'⟩, hsucceeds', _⟩ :=
    a_change_is_made_once_or_not_at_all gateway around removal .delete "test"
      (by decide +kernel) (by decide)
  have status : (gateway.answer around insertion).response.status = 201 := by decide +kernel
  have two : (gateway.answer around insertion).calls.length = 2 := by decide +kernel
  have one : (gateway.answer around removal).calls.length = 1 := by decide +kernel
  have asked : ∃ statement, (gateway.answer around insertion).calls =
      [.tableColumns "test", .execute statement] := by
    rcases hbefore with rfl | ⟨_, rfl⟩ <;> rcases hcalls with h | ⟨statement, h⟩ <;>
      simp only [h, List.nil_append, List.length_nil, List.length_singleton] at two
    · cases two
    · cases two
    · cases two
    · exact ⟨statement, h⟩
  have run : ∃ statement, (gateway.answer around removal).calls = [.execute statement] := by
    rcases hbefore' with rfl | ⟨hmethod, _⟩
    · rcases hcalls' with h | h
      · simp [h] at one
      · exact h
    · exact absurd hmethod (by decide)
  refine ⟨?_, asked, ?_, run⟩
  · exact hresponse ⟨by rw [status]; decide, by rw [status]; decide⟩
  · rw [hsucceeds']
    rintro ⟨before, statement, rows, hlast, hrun⟩
    obtain rfl : before = [] := by
      simpa [hlast] using one
    cases hrun

end Gateway

end TableGateway.Http

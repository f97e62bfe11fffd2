import TableGateway.Proofs.Changes
import TableGateway.Proofs.SameRows

-- What comes of a request whose body was read. It is turned away at one of the two doors, or
-- what it gets is the outcome of its endpoint.

namespace TableGateway.Http

/-! ## Behind the doors -/

namespace Gateway

variable {gateway : Gateway} {around : Surroundings} {message : Message} {kind : StatementKind}
  {table : String} {body : List UInt8}

/-- The answer that an outcome becomes. -/
def answered (outcome : Outcome) (after : Gateway) : Answer :=
  ⟨responseOf outcome.result, outcome.calls, after⟩

@[simp]
theorem answered_response (outcome : Outcome) (after : Gateway) :
    (answered outcome after).response = responseOf outcome.result :=
  rfl

@[simp]
theorem answered_calls (outcome : Outcome) (after : Gateway) :
    (answered outcome after).calls = outcome.calls :=
  rfl

/-- A fault of a request that does not come through the doors. -/
inductive DoorFault : Fault → Prop where
  | closed : DoorFault .accessRestricted
  | unknown (reason : String) : DoorFault (.unauthorized reason)

theorem DoorFault.status_mem {fault : Fault} (h : DoorFault fault) : fault.status ∈ [401, 403] := by
  cases h with
  | closed => decide
  | unknown reason => simp [Fault.status]

theorem answer_of_nowhere (route : Route.ofMessage? message = none) :
    gateway.answer around message = ⟨.notFound, [], gateway⟩ := by
  unfold answer
  rw [route]

theorem answer_of_health (route : Route.ofMessage? message = some .health) :
    gateway.answer around message = ⟨healthResponse, [], gateway⟩ := by
  unfold answer
  rw [route]

/-- A request that is let in gets the outcome of its endpoint. -/
theorem answer_of_letsIn (route : Route.ofMessage? message = some (.table kind table))
    (letIn : gateway.LetsIn around message kind table body) :
    ∃ after, gateway.answer around message =
      answered (onTable around.db around.past (message.request body) kind table) after := by
  rw [answer_of_readable route letIn.isRead]
  unfold answerTable
  rw [guard_of_open letIn.isOpen, letIn.isKnown]
  exact ⟨_, rfl⟩

/-- A request whose body was read is turned away at a door, and nothing is called, or it is let in
and gets the outcome of its endpoint. -/
theorem answer_cases (gateway : Gateway) (around : Surroundings)
    (route : Route.ofMessage? message = some (.table kind table))
    (read : bodyFor kind message = .ok body) :
    (∃ fault after, DoorFault fault ∧ gateway.answer around message = ⟨.ofFault fault, [], after⟩) ∨
    (gateway.LetsIn around message kind table body ∧ ∃ after, gateway.answer around message =
      answered (onTable around.db around.past (message.request body) kind table) after) := by
  by_cases hopen : table ∈ gateway.access.tables
  · cases hverdict : gateway.verdict around message with
    | error fault =>
      obtain ⟨reason, rfl⟩ := Authenticator.authenticate_error hverdict
      have hanswer := (answer_of_readable route read).trans (answerTable_of_refused hopen hverdict)
      exact .inl ⟨_, _, .unknown reason, hanswer⟩
    | ok u =>
      have letIn : gateway.LetsIn around message kind table body := ⟨hopen, hverdict, read⟩
      exact .inr ⟨letIn, answer_of_letsIn route letIn⟩
  · exact .inl ⟨_, _, .closed, (answer_of_readable route read).trans (answerTable_of_closed hopen)⟩

end Gateway

/-! ## Reading rows -/

/-- The ways that reading rows may go, from the first refusal to the page with its total. -/
inductive Reading (db : Backend) (past : List Call) (request : Request) (table : String) :
    Outcome → Prop where
  | refused {fault : Fault} (fails : request.select table = .error fault) :
      Reading db past request table (.refused fault [])
  | unread {statement : Statement} {text : String}
      (compiles : request.select table = .ok statement)
      (fails : db.query past statement = .error text) :
      Reading db past request table (.refused (.database text) [.query statement])
  | unwished {statement : Statement} {rows : List Json.Value} {fault : Fault}
      (compiles : request.select table = .ok statement)
      (reads : db.query past statement = .ok rows)
      (fails : Preference.ofRequest request = .error fault) :
      Reading db past request table (.refused fault [.query statement])
  | read {statement : Statement} {rows : List Json.Value} {preference : Preference}
      (compiles : request.select table = .ok statement)
      (reads : db.query past statement = .ok rows)
      (wishes : Preference.ofRequest request = .ok preference)
      (wish : preference.count = .none) :
      Reading db past request table
        (.answered (rowsResponse request rows unknownTotal) [.query statement])
  | uncounted {statement counting : Statement} {rows : List Json.Value} {preference : Preference}
      {text : String} (compiles : request.select table = .ok statement)
      (reads : db.query past statement = .ok rows)
      (wishes : Preference.ofRequest request = .ok preference)
      (wish : preference.count = .exact) (countable : request.exactCount table = .ok counting)
      (fails : db.count (past ++ [.query statement]) counting = .error text) :
      Reading db past request table
        (.refused (.database text) [.query statement, .count counting])
  | counted {statement counting : Statement} {rows : List Json.Value} {preference : Preference}
      {total : Int} (compiles : request.select table = .ok statement)
      (reads : db.query past statement = .ok rows)
      (wishes : Preference.ofRequest request = .ok preference)
      (wish : preference.count = .exact) (countable : request.exactCount table = .ok counting)
      (counts : db.count (past ++ [.query statement]) counting = .ok total) :
      Reading db past request table (.answered (rowsResponse request rows (Page.numeral total))
        [.query statement, .count counting])

/-- Rows that can be read can be counted. -/
theorem exactCount_of_select {request : Request} {table : String} {statement : Statement}
    (h : request.select table = .ok statement) :
    ∃ counting, request.exactCount table = .ok counting := by
  obtain ⟨clauses, _, _, hclauses, _⟩ := Request.select_eq_ok.mp h
  exact ⟨_, Request.exactCount_of_clauses hclauses table⟩

/-- A refusal is told with the status of its fault. -/
theorem status_of_refused (fault : Fault) (calls : List Call) :
    (Gateway.responseOf (Outcome.refused fault calls).result).status = fault.status :=
  rfl

/-- Reading rows goes one of these ways. -/
theorem reading_of_select (db : Backend) (past : List Call) (request : Request)
    (table : String) : Reading db past request table (select db past request table) := by
  unfold select
  cases hselect : request.select table with
  | error fault => exact .refused hselect
  | ok statement =>
    simp only
    cases hquery : db.query past statement with
    | error text => exact .unread hselect hquery
    | ok rows =>
      simp only
      cases hwishes : Preference.ofRequest request with
      | error fault => exact .unwished hselect hquery hwishes
      | ok preference =>
        simp only
        cases hwish : preference.count with
        | none => exact .read hselect hquery hwishes hwish
        | exact =>
          obtain ⟨counting, hcounting⟩ := exactCount_of_select hselect
          simp only [countRows, hcounting]
          cases hcount : db.count (past ++ [.query statement]) counting with
          | error text => exact .uncounted hselect hquery hwishes hwish hcounting hcount
          | ok total => exact .counted hselect hquery hwishes hwish hcounting hcount

/-- A request for rows behind the doors goes one of these ways. -/
theorem reading_of_onTable (db : Backend) (past : List Call) (request : Request)
    (table : String) : Reading db past request table (onTable db past request .select table) :=
  reading_of_select db past request table

end TableGateway.Http

import TableGateway.Proofs.Faults
import TableGateway.Proofs.Outcomes
import TableGateway.Proofs.Requirements

-- The laws of failures. A request is told of a failure inside exactly where the database failed,
-- and then nothing more is called. All else that goes wrong is the request's own fault. Whatever
-- stops a request, the response tells of that very fault.

namespace TableGateway

open Fallible

/-! ## Senders that are not known -/

/-- The ways that an authenticator refuses a header: no token comes with it, the key file cannot be
read, it holds no key of its kind, or the token does not pass with the key. -/
inductive Authenticator.Refuses (keyFile : Except String KeyFile) (now : Nat)
    (cache : KeyFile.Cache) (header : Option String) : Authenticator → Fault → Prop where
  | untold {kind : KeyKind} {path : String} {fault : Fault}
      (fails : tokenOf header = .error fault) :
      Refuses keyFile now cache header (.enabled kind path) fault
  | unread {kind : KeyKind} {path token text : String} (told : tokenOf header = .ok token)
      (fails : keyFile = .error text) :
      Refuses keyFile now cache header (.enabled kind path) (.unauthorized (Fault.io text).message)
  | keyless {kind : KeyKind} {path token : String} {content : List UInt8} {reason : TokenFault}
      (told : tokenOf header = .ok token) (reads : (KeyFile.read keyFile cache).1 = .ok content)
      (fails : keyOf kind content = .error reason) :
      Refuses keyFile now cache header (.enabled kind path) (.unauthorized reason.message)
  | unfit {kind : KeyKind} {path token : String} {content : List UInt8} {key : Token.Key}
      {reason : TokenFault} (told : tokenOf header = .ok token)
      (reads : (KeyFile.read keyFile cache).1 = .ok content) (holds : keyOf kind content = .ok key)
      (fails : Token.check key now token = .error reason) :
      Refuses keyFile now cache header (.enabled kind path) (.unauthorized reason.message)

namespace Authenticator

variable {authenticator : Authenticator} {keyFile : Except String KeyFile} {now : Nat}
  {cache : KeyFile.Cache} {header : Option String} {fault : Fault}

/-- A token is refused for the key in a content, or because there is none. -/
theorem verify_eq_error {kind : KeyKind} {token : String} {content : List UInt8} :
    verify kind now token content = .error fault ↔ ∃ reason,
      (keyOf kind content = .error reason ∨
        ∃ key, keyOf kind content = .ok key ∧ Token.check key now token = .error reason) ∧
      .unauthorized reason.message = fault := by
  change ((keyOf kind content >>= fun key => Token.check key now token).mapError refused) = _ ↔ _
  rw [mapError_eq_error]
  simp only [bind_eq_error]
  rfl

theorem Refuses.authenticate_eq (h : authenticator.Refuses keyFile now cache header fault) :
    (authenticator.authenticate keyFile now cache header).1 = .error fault := by
  cases h with
  | untold fails => simp only [authenticate, fails]
  | unread told fails =>
    subst fails
    simp only [authenticate, told, KeyFile.read, verifyWith]
  | keyless told reads fails =>
    simp only [authenticate, told, reads, verifyWith]
    exact verify_eq_error.mpr ⟨_, .inl fails, rfl⟩
  | unfit told reads holds fails =>
    simp only [authenticate, told, reads, verifyWith]
    exact verify_eq_error.mpr ⟨_, .inr ⟨_, holds, fails⟩, rfl⟩

theorem refuses_of_authenticate
    (h : (authenticator.authenticate keyFile now cache header).1 = .error fault) :
    authenticator.Refuses keyFile now cache header fault := by
  cases authenticator with
  | disabled => cases h
  | enabled kind path =>
    cases htoken : tokenOf header with
    | error untold =>
      simp only [authenticate, htoken] at h
      cases h
      exact .untold htoken
    | ok token =>
      cases keyFile with
      | error text =>
        simp only [authenticate, htoken, KeyFile.read, verifyWith] at h
        cases h
        exact .unread htoken rfl
      | ok file =>
        simp only [authenticate, htoken, KeyFile.read, verifyWith] at h
        obtain ⟨reason, fails | ⟨key, holds, fails⟩, rfl⟩ := verify_eq_error.mp h
        · exact .keyless htoken rfl fails
        · exact .unfit htoken rfl holds fails

/-- A header is refused in one of these ways. -/
theorem authenticate_eq_error :
    (authenticator.authenticate keyFile now cache header).1 = .error fault ↔
      authenticator.Refuses keyFile now cache header fault :=
  ⟨refuses_of_authenticate, Refuses.authenticate_eq⟩

end Authenticator

/-! ## Calls that fail -/

namespace Backend

variable {db : Backend} {past calls : List Call} {call : Call}

/-- Why the database fails at a call that comes after others, if it does. -/
def failure? (db : Backend) (past : List Call) : Call → Option String
  | .query statement => cause? (db.query past statement)
  | .execute statement => cause? (db.execute past statement)
  | .count statement => cause? (db.count past statement)
  | .tableColumns table => cause? (db.tableColumns past table)

theorem failure?_query {statement : Statement} :
    db.failure? past (.query statement) = cause? (db.query past statement) :=
  rfl

theorem failure?_execute {statement : Statement} :
    db.failure? past (.execute statement) = cause? (db.execute past statement) :=
  rfl

theorem failure?_count {statement : Statement} :
    db.failure? past (.count statement) = cause? (db.count past statement) :=
  rfl

theorem failure?_tableColumns {table : String} :
    db.failure? past (.tableColumns table) = cause? (db.tableColumns past table) :=
  rfl

/-- The database fails at one of some calls, each of which comes after those before it. -/
def FailsAt (db : Backend) (past calls before : List Call) (call : Call) (after : List Call)
    (text : String) : Prop :=
  calls = before ++ call :: after ∧ db.failure? (past ++ before) call = some text

/-- The database fails at none of some calls. -/
def Serves (db : Backend) (past calls : List Call) : Prop :=
  ∀ before call after text, ¬ db.FailsAt past calls before call after text

theorem Serves.not_exists_failsAt (h : db.Serves past calls) :
    ¬ ∃ before call after text, db.FailsAt past calls before call after text := by
  rintro ⟨before, call, after, text, hfails⟩
  exact h before call after text hfails

theorem serves_nil : db.Serves past [] := by
  rintro before call after text ⟨hcalls, _⟩
  exact List.append_ne_nil_of_right_ne_nil before (List.cons_ne_nil _ _) hcalls.symm

/-- A call at which the database may fail is one of those before, or the last one. -/
theorem failsAt_snoc {before after : List Call} {other : Call} {text : String}
    (h : db.FailsAt past (calls ++ [call]) before other after text) :
    (∃ rest, db.FailsAt past calls before other rest text) ∨
      calls = before ∧ call = other ∧ after = [] := by
  obtain ⟨hcalls, hfails⟩ := h
  rcases List.eq_nil_or_concat after with rfl | ⟨rest, last, rfl⟩
  · obtain ⟨rfl, hlast⟩ := List.append_inj' hcalls rfl
    cases hlast
    exact .inr ⟨rfl, rfl, rfl⟩
  · have hinit : calls ++ [call] = (before ++ other :: rest) ++ [last] := by
      simpa using hcalls
    exact .inl ⟨rest, (List.append_inj' hinit rfl).1, hfails⟩

theorem serves_snoc (calls : List Call) (call : Call) (h : db.Serves past calls)
    (hcall : db.failure? (past ++ calls) call = none) : db.Serves past (calls ++ [call]) := by
  intro before other after text hfails
  rcases failsAt_snoc hfails with ⟨rest, hfails⟩ | ⟨rfl, rfl, _⟩
  · exact h _ _ _ _ hfails
  · cases hcall.symm.trans hfails.2

theorem serves_singleton (hcall : db.failure? past call = none) : db.Serves past [call] :=
  serves_snoc [] call serves_nil (by simpa using hcall)

theorem serves_query {statement : Statement} {rows : List Json.Value}
    (h : db.query past statement = .ok rows) : db.Serves past [.query statement] := by
  refine serves_singleton ?_
  rw [failure?_query, h, cause?_ok]

/-- A database that served calls and failed at the next one failed at the last one only. -/
theorem failsAt_last {before after : List Call} {other : Call} {text text' : String}
    (h : db.Serves past calls) (hcall : db.failure? (past ++ calls) call = some text)
    (hfails : db.FailsAt past (calls ++ [call]) before other after text') :
    after = [] ∧ text' = text := by
  rcases failsAt_snoc hfails with ⟨rest, hfails⟩ | ⟨rfl, rfl, rfl⟩
  · exact absurd hfails (h _ _ _ _)
  · exact ⟨rfl, Option.some.inj (hfails.2.symm.trans hcall)⟩

end Backend

/-! ## Requests that are stopped -/

namespace Http

/-- The ways that a request behind the doors is stopped: the database fails at one of its calls, it
becomes no statement, or its wishes make no sense, which are looked at after the query. Each comes
with its fault, and with the calls that were made until then. -/
inductive Stops (db : Backend) (past : List Call) (request : Request) (table : String) :
    StatementKind → Fault → List Call → Prop where
  | columns {kind : StatementKind} {text : String} (asks : asksColumns request kind = true)
      (fails : db.tableColumns past table = .error text) :
      Stops db past request table kind (.database text) [.tableColumns table]
  | statement {kind : StatementKind} {known : Option (List String)} {fault : Fault}
      (knows : knownColumns db past request kind table = .ok known)
      (fails : request.compile known kind table = .error fault) :
      Stops db past request table kind fault (callsBefore request kind table)
  | change {kind : StatementKind} {statement : Statement} {text : String} (changes : kind ≠ .select)
      (compiles : changeStatement db past request kind table = .ok statement)
      (fails : db.execute (past ++ callsBefore request kind table) statement = .error text) :
      Stops db past request table kind (.database text)
        (callsBefore request kind table ++ [.execute statement])
  | query {statement : Statement} {text : String} (compiles : request.select table = .ok statement)
      (fails : db.query past statement = .error text) :
      Stops db past request table .select (.database text) [.query statement]
  | wishes {statement : Statement} {rows : List Json.Value} {fault : Fault}
      (compiles : request.select table = .ok statement)
      (reads : db.query past statement = .ok rows)
      (fails : Preference.ofRequest request = .error fault) :
      Stops db past request table .select fault [.query statement]
  | count {statement counting : Statement} {rows : List Json.Value} {preference : Preference}
      {text : String} (compiles : request.select table = .ok statement)
      (reads : db.query past statement = .ok rows)
      (wishes : Preference.ofRequest request = .ok preference)
      (wish : preference.count = .exact) (countable : request.exactCount table = .ok counting)
      (fails : db.count (past ++ [.query statement]) counting = .error text) :
      Stops db past request table .select (.database text) [.query statement, .count counting]

section Stopped

variable {db : Backend} {past : List Call} {request : Request} {kind : StatementKind}
  {table : String} {fault : Fault} {calls : List Call}

theorem callsBefore_of_asks (asks : asksColumns request kind = true) :
    callsBefore request kind table = [.tableColumns table] :=
  if_pos asks

theorem callsBefore_select : callsBefore request .select table = [] :=
  rfl

/-- Where the columns of a table are not known, they were asked for and the database failed. -/
theorem knownColumns_eq_error : knownColumns db past request kind table = .error fault ↔
    asksColumns request kind = true ∧
      ∃ text, db.tableColumns past table = .error text ∧ fault = .database text := by
  unfold knownColumns
  split_ifs with asks
  · simp only [asks, true_and, mapError_eq_error, map_eq_error, eq_comm (a := fault)]
  · exact iff_of_false nofun fun h => asks h.1

/-- Nothing is asked for before rows are read. -/
theorem knownColumns_select {known : Option (List String)}
    (h : knownColumns db past request .select table = .ok known) : known = none :=
  (Except.ok.inj h).symm

/-- A statement that cannot be made stops a change before it is run. -/
theorem onTable_of_fault (changes : kind ≠ .select)
    (fails : changeStatement db past request kind table = .error fault) :
    onTable db past request kind table = .refused fault (callsBefore request kind table) := by
  rw [onTable_of_change changes, fails]
  rfl

/-- A request that is stopped gets the fault that stopped it, and nothing more is called. -/
theorem Stops.onTable_eq (h : Stops db past request table kind fault calls) :
    onTable db past request kind table = .refused fault calls := by
  cases h with
  | @columns _ text asks fails =>
    have changes : kind ≠ .select := by
      rintro rfl
      cases asks
    rw [← callsBefore_of_asks asks]
    exact onTable_of_fault changes
      (bind_eq_error.mpr (.inl (knownColumns_eq_error.mpr ⟨asks, text, fails, rfl⟩)))
  | statement knows fails =>
    by_cases changes : kind = .select
    · subst changes
      obtain rfl := knownColumns_select knows
      replace fails : request.select table = .error fault := fails
      change select db past request table = _
      simp only [select, fails, callsBefore_select]
    · exact onTable_of_fault changes (bind_eq_error.mpr (.inr ⟨_, knows, fails⟩))
  | change changes compiles fails =>
    rw [onTable_of_change changes, compiles]
    simp only [execute, fails]
  | query compiles fails =>
    change select db past request table = _
    simp only [select, compiles, fails]
  | wishes compiles reads fails =>
    change select db past request table = _
    simp only [select, compiles, reads, fails]
  | count compiles reads wishes wish countable fails =>
    change select db past request table = _
    simp only [select, compiles, reads, wishes, wish, countRows, countable, List.singleton_append,
      fails]

/-- The calls that come before a statement were served, if it can be made. -/
theorem serves_before {known : Option (List String)}
    (knows : knownColumns db past request kind table = .ok known) :
    db.Serves past (callsBefore request kind table) := by
  unfold callsBefore
  split_ifs with asks
  · refine Backend.serves_singleton ?_
    rw [Backend.failure?_tableColumns]
    cases hcolumns : db.tableColumns past table with
    | ok columns => rfl
    | error text =>
      cases (knownColumns_eq_error.mpr ⟨asks, text, hcolumns, rfl⟩).symm.trans knows
  · exact Backend.serves_nil

end Stopped

/-! ## Outcomes -/

/-- The ways that a request may go: it succeeds, it is refused for a fault from outside, or the
database fails and is not called again. -/
inductive Ends (db : Backend) (past : List Call) : Outcome → Prop where
  | success {response : Response} {calls : List Call} (served : db.Serves past calls)
      (low : 200 ≤ response.status) (high : response.status < 300) :
      Ends db past (.answered response calls)
  | refusal {fault : Fault} {calls : List Call} (served : db.Serves past calls)
      (outer : fault.status ∈ outerStatuses) : Ends db past (.refused fault calls)
  | failure (calls : List Call) (call : Call) {text : String} (served : db.Serves past calls)
      (fails : db.failure? (past ++ calls) call = some text) :
      Ends db past (.refused (.database text) (calls ++ [call]))

section Endpoints

variable {db : Backend} {past : List Call} {request : Request} {kind : StatementKind}
  {table : String}

/-- Rows that are shown are a success. -/
theorem ends_rows {rows : List Json.Value} {total : String} {calls : List Call}
    (served : db.Serves past calls) :
    Ends db past (.answered (rowsResponse request rows total) calls) := by
  have hstatus : (rowsResponse request rows total).status = 200 := rfl
  exact .success served (by omega) (by omega)

/-- What stops a request behind the doors is a fault of the request, or the last call failed. -/
theorem Stops.ends {fault : Fault} {calls : List Call}
    (h : Stops db past request table kind fault calls) : Ends db past (.refused fault calls) := by
  cases h with
  | columns _ fails =>
    refine .failure [] (.tableColumns table) Backend.serves_nil ?_
    rw [List.append_nil, Backend.failure?_tableColumns, fails, cause?_error]
  | statement knows fails =>
    exact .refusal (serves_before knows) (request.blames_compile _ kind table _ fails).outer
  | @change _ statement _ _ compiles fails =>
    obtain ⟨known, knows, _⟩ := bind_eq_ok.mp compiles
    refine .failure _ (.execute statement) (serves_before knows) ?_
    rw [Backend.failure?_execute, fails, cause?_error]
  | @query statement _ _ fails =>
    refine .failure [] (.query statement) Backend.serves_nil ?_
    rw [List.append_nil, Backend.failure?_query, fails, cause?_error]
  | wishes _ reads fails =>
    exact .refusal (Backend.serves_query reads) (Preference.blames_ofRequest request _ fails).outer
  | @count statement counting _ _ _ _ reads _ _ _ fails =>
    refine .failure [.query statement] (.count counting) (Backend.serves_query reads) ?_
    rw [Backend.failure?_count, fails, cause?_error]

/-- A request behind the doors is stopped, or it is answered with a success. -/
def IsSettled (db : Backend) (past : List Call) (request : Request) (kind : StatementKind)
    (table : String) (outcome : Outcome) : Prop :=
  (∃ fault calls, Stops db past request table kind fault calls) ∨
    ∃ response calls, outcome = .answered response calls ∧
      Ends db past (.answered response calls)

theorem settled_of_reading {outcome : Outcome} (h : Reading db past request table outcome) :
    IsSettled db past request .select table outcome := by
  cases h with
  | refused fails => exact .inl ⟨_, _, .statement rfl fails⟩
  | unread compiles fails => exact .inl ⟨_, _, .query compiles fails⟩
  | unwished compiles reads fails => exact .inl ⟨_, _, .wishes compiles reads fails⟩
  | uncounted compiles reads wishes wish countable fails =>
    exact .inl ⟨_, _, .count compiles reads wishes wish countable fails⟩
  | read _ reads _ _ => exact .inr ⟨_, _, rfl, ends_rows (Backend.serves_query reads)⟩
  | @counted statement counting _ _ _ _ reads _ _ _ counts =>
    refine .inr ⟨_, _, rfl, ends_rows (Backend.serves_snoc [.query statement] (.count counting)
      (Backend.serves_query reads) ?_)⟩
    rw [Backend.failure?_count, counts, cause?_ok]

theorem settled_of_change (changes : kind ≠ .select) :
    IsSettled db past request kind table (onTable db past request kind table) := by
  cases hstatement : changeStatement db past request kind table with
  | error fault =>
    rcases bind_eq_error.mp hstatement with hunknown | ⟨known, knows, fails⟩
    · obtain ⟨asks, text, fails, rfl⟩ := knownColumns_eq_error.mp hunknown
      exact .inl ⟨_, _, .columns asks fails⟩
    · exact .inl ⟨_, _, .statement knows fails⟩
  | ok statement =>
    cases hrun : db.execute (past ++ callsBefore request kind table) statement with
    | error text => exact .inl ⟨_, _, .change changes hstatement hrun⟩
    | ok rows =>
      obtain ⟨known, knows, _⟩ := bind_eq_ok.mp hstatement
      obtain ⟨low, high⟩ := changedStatus_mem kind
      have served : db.Serves past (callsBefore request kind table ++ [.execute statement]) := by
        refine Backend.serves_snoc _ _ (serves_before knows) ?_
        rw [Backend.failure?_execute, hrun, cause?_ok]
      rw [onTable_of_change changes, hstatement]
      simp only [execute, hrun]
      exact .inr ⟨_, _, rfl, .success served low high⟩

/-- Every request behind the doors goes one of these ways. -/
theorem settled_onTable (db : Backend) (past : List Call) (request : Request)
    (kind : StatementKind) (table : String) :
    IsSettled db past request kind table (onTable db past request kind table) := by
  by_cases changes : kind = .select
  · subst changes
    exact settled_of_reading (reading_of_onTable db past request table)
  · exact settled_of_change changes

end Endpoints

/-! ## Responses that tell of faults -/

/-- The members of the body that tells of a fault, in their order. -/
def faultMembers (fault : Fault) : List (String × Json.Value) :=
  [("message", .string fault.short), ("code", .string fault.code)] ++
    (fault.hint?.map fun hint => ("hint", Json.Value.string hint)).toList

/-- A response tells of a fault: with its status, and with an object of its message, its own code
and its hint. -/
structure Response.Tells (response : Response) (fault : Fault) : Prop where
  status : response.status = fault.status
  headers : response.headers = [("content-type", "application/json")]
  body : response.body = String.ofList
    (Json.openBrace :: Json.membersChars (faultMembers fault) ++ [Json.closeBrace])

theorem Response.tells_ofFault (fault : Fault) : (ofFault fault).Tells fault := by
  refine ⟨rfl, rfl, ?_⟩
  change fault.body = _
  unfold Fault.body faultMembers
  cases fault.hint? <;> simp [Fault.bodyMember, Json.membersChars, Json.Value.chars]

/-! ## The law -/

theorem Ends.status_eq_iff {db : Backend} {past : List Call} {outcome : Outcome}
    (h : Ends db past outcome) : (Gateway.responseOf outcome.result).status = 500 ↔
      ∃ before call after text, db.FailsAt past outcome.calls before call after text := by
  cases h with
  | @success response calls served low high =>
    have hstatus : response.status ≠ 500 := by omega
    exact iff_of_false hstatus served.not_exists_failsAt
  | @refusal fault calls served outer =>
    have hstatus : fault.status ≠ 500 := by
      intro h
      simp [h, outerStatuses] at outer
    exact iff_of_false hstatus served.not_exists_failsAt
  | @failure calls call text served fails =>
    exact iff_of_true rfl ⟨calls, call, [], text, rfl, fails⟩

theorem Ends.of_failsAt {db : Backend} {past before after : List Call} {call : Call} {text : String}
    {outcome : Outcome} (h : Ends db past outcome)
    (hfails : db.FailsAt past outcome.calls before call after text) :
    after = [] ∧ Gateway.responseOf outcome.result = .ofFault (.database text) := by
  cases h with
  | success served _ _ => exact absurd hfails (served _ _ _ _)
  | refusal served _ => exact absurd hfails (served _ _ _ _)
  | failure calls call served fails =>
    obtain ⟨rfl, rfl⟩ := Backend.failsAt_last served fails hfails
    exact ⟨rfl, rfl⟩

/-- A fault is told because the database failed, or for one from outside. -/
theorem Ends.cause {db : Backend} {past calls : List Call} {fault : Fault}
    (h : Ends db past (.refused fault calls)) :
    (∃ text, fault = .database text) ∨ fault.status ∈ outerStatuses := by
  cases h with
  | refusal _ outer => exact .inr outer
  | failure _ _ _ _ => exact .inl ⟨_, rfl⟩

theorem Ends.succeeds {db : Backend} {past calls : List Call} {response : Response}
    (h : Ends db past (.answered response calls)) (after : Gateway) :
    (Gateway.answered (.answered response calls) after).Succeeds := by
  cases h with
  | success _ low high => exact ⟨low, high⟩

namespace Gateway

variable {gateway : Gateway} {around : Surroundings} {message : Message} {kind : StatementKind}
  {table : String} {body : List UInt8}

theorem DoorFault.outer {fault : Fault} (h : DoorFault fault) : fault.status ∈ outerStatuses := by
  rcases List.mem_cons.mp h.status_mem with h | h
  · simp [h, outerStatuses]
  · simp [List.mem_singleton.mp h, outerStatuses]

/-- The ways that a request on a table whose body was read is stopped: the table is not open, its
sender is not known, or it is stopped behind the doors. -/
inductive Stops (gateway : Gateway) (around : Surroundings) (message : Message)
    (kind : StatementKind) (table : String) (body : List UInt8) : Fault → List Call → Prop where
  | closed (isClosed : table ∉ gateway.access.tables) :
      Stops gateway around message kind table body .accessRestricted []
  | unknown {fault : Fault} (isOpen : table ∈ gateway.access.tables)
      (refuses : gateway.authenticator.Refuses around.keyFile around.now gateway.cache
        (message.plainHeader? authorizationName) fault) :
      Stops gateway around message kind table body fault []
  | behind {fault : Fault} {calls : List Call}
      (letIn : gateway.LetsIn around message kind table body)
      (stops : Http.Stops around.db around.past (message.request body) table kind fault calls) :
      Stops gateway around message kind table body fault calls

theorem Stops.ends {fault : Fault} {calls : List Call}
    (h : gateway.Stops around message kind table body fault calls) :
    Ends around.db around.past (.refused fault calls) := by
  cases h with
  | closed _ => exact .refusal Backend.serves_nil DoorFault.closed.outer
  | unknown _ refuses =>
    obtain ⟨reason, rfl⟩ := Authenticator.authenticate_error refuses.authenticate_eq
    exact .refusal Backend.serves_nil (DoorFault.unknown reason).outer
  | behind _ stops => exact stops.ends

/-- A request that is stopped is answered with the fault that stopped it, and nothing more is
called. -/
theorem Stops.answer_eq {fault : Fault} {calls : List Call}
    (h : gateway.Stops around message kind table body fault calls)
    (route : Route.ofMessage? message = some (.table kind table))
    (read : bodyFor kind message = .ok body) :
    ∃ after, gateway.answer around message = answered (.refused fault calls) after := by
  cases h with
  | closed isClosed =>
    exact ⟨_, (answer_of_readable route read).trans (answerTable_of_closed isClosed)⟩
  | unknown isOpen refuses =>
    exact ⟨_, (answer_of_readable route read).trans
      (answerTable_of_refused isOpen refuses.authenticate_eq)⟩
  | behind letIn stops =>
    rw [← stops.onTable_eq]
    exact answer_of_letsIn route letIn

/-- Every request on a table whose body was read is stopped, or it is answered with a success. -/
theorem stops_or_answers (gateway : Gateway) (around : Surroundings)
    (route : Route.ofMessage? message = some (.table kind table))
    (read : bodyFor kind message = .ok body) :
    (∃ fault calls, gateway.Stops around message kind table body fault calls) ∨
    ∃ response calls after, gateway.answer around message =
      answered (.answered response calls) after ∧
        Ends around.db around.past (.answered response calls) := by
  by_cases hopen : table ∈ gateway.access.tables
  · cases hverdict : gateway.verdict around message with
    | error fault =>
      exact .inl ⟨fault, [], .unknown hopen (Authenticator.authenticate_eq_error.mp hverdict)⟩
    | ok u =>
      have letIn : gateway.LetsIn around message kind table body := ⟨hopen, hverdict, read⟩
      obtain ⟨after, heq⟩ := answer_of_letsIn route letIn
      rcases settled_onTable around.db around.past (message.request body) kind table with
        ⟨fault, calls, stops⟩ | ⟨response, calls, houtcome, ends⟩
      · exact .inl ⟨fault, calls, .behind letIn stops⟩
      · exact .inr ⟨response, calls, after, houtcome ▸ heq, ends⟩
  · exact .inl ⟨_, _, .closed hopen⟩

/-- Every request on a table whose body was read goes one of these ways. -/
theorem ends_answer (gateway : Gateway) (around : Surroundings)
    (route : Route.ofMessage? message = some (.table kind table))
    (read : bodyFor kind message = .ok body) :
    ∃ outcome after, gateway.answer around message = answered outcome after ∧
      Ends around.db around.past outcome := by
  rcases stops_or_answers gateway around route read with
    ⟨fault, calls, stops⟩ | ⟨response, calls, after, heq, ends⟩
  · obtain ⟨after, heq⟩ := stops.answer_eq route read
    exact ⟨_, after, heq, stops.ends⟩
  · exact ⟨_, after, heq, ends⟩

/-- A request on a table whose body was read is told of a failure inside exactly where the
database failed at one of its calls. That call is the last one, and the response gives the words
of the database. A request may be stopped at either door, at a call, for what it says, or for its
wishes. Then the response tells of that very fault, with its own code, and nothing more is called.
The fault is a failure of the database, or its status is 400, 401, 403 or 415. A request that
nothing stops succeeds. One that becomes no statement is refused for the first requirement that it
does not meet, with a status of 400 or 415. -/
theorem an_internal_error_is_a_failure_of_the_database (gateway : Gateway) (around : Surroundings)
    (message : Message) (kind : StatementKind) (table : String) (body : List UInt8)
    (route : Route.ofMessage? message = some (.table kind table))
    (read : bodyFor kind message = .ok body) :
    let answer := gateway.answer around message
    (answer.response.status = 500 ↔ ∃ before call after text,
      around.db.FailsAt around.past answer.calls before call after text) ∧
    (∀ before call after text,
      around.db.FailsAt around.past answer.calls before call after text →
      after = [] ∧ answer.response.Tells (.database text)) ∧
    (∀ fault calls, gateway.Stops around message kind table body fault calls →
      answer.response.Tells fault ∧ answer.calls = calls ∧
      ((∃ text, fault = .database text) ∨ fault.status ∈ [400, 401, 403, 415])) ∧
    (answer.Succeeds ∨
      ∃ fault calls, gateway.Stops around message kind table body fault calls) ∧
    ∀ (request : Request) (known : Option (List String)) (kind : StatementKind) (table : String)
      (fault : Fault),
      (request.compile known kind table = .error fault ↔
        Requirement.Refuses (request.requirements known kind) fault) ∧
      (request.compile known kind table = .error fault → fault.status ∈ [400, 415]) := by
  intro answer
  obtain ⟨outcome, after, heq, ends⟩ := ends_answer gateway around route read
  change answer = _ at heq
  refine ⟨?_, fun before call after text hfails => ?_, fun fault calls stops => ?_, ?_,
    fun request known kind table fault =>
      ⟨(request.govern_compile known kind table).refused fault, fun fails =>
        (request.blames_compile known kind table fault fails).status_mem⟩⟩
  · rw [heq]
    exact ends.status_eq_iff
  · rw [heq] at hfails ⊢
    obtain ⟨rfl, hresponse⟩ := ends.of_failsAt hfails
    rw [answered_response, hresponse]
    exact ⟨rfl, Response.tells_ofFault _⟩
  · obtain ⟨after', hstopped⟩ := stops.answer_eq route read
    change answer = _ at hstopped
    rw [hstopped]
    exact ⟨Response.tells_ofFault fault, rfl, stops.ends.cause⟩
  · rcases stops_or_answers gateway around route read with stops | ⟨_, _, _, hanswer, success⟩
    · exact .inr stops
    · change answer = _ at hanswer
      rw [hanswer]
      exact .inl (success.succeeds _)

/-- A count that fails after its query. -/
theorem a_count_fails_after_its_query :
    let gateway : Gateway := ⟨⟨["pets"]⟩, .disabled, none⟩
    let around : Surroundings :=
      { now := 0, db := { query := fun _ _ => .ok [], execute := fun _ _ => .ok 0,
                          count := fun _ _ => .error "disk I/O error",
                          tableColumns := fun _ _ => .ok [] } }
    let message : Message :=
      { method := "GET", target := "/pets?age=gt.3", headers := [("prefer", "count=exact")] }
    (gateway.answer around message).response.status = 500 ∧
      (∃ before call after text, around.db.FailsAt around.past
        (gateway.answer around message).calls before call after text) ∧
      (gateway.answer around message).calls.length = 2 := by
  intro gateway around message
  have route : Route.ofMessage? message = some (.table .select "pets") := by decide +kernel
  have status : (gateway.answer around message).response.status = 500 := by decide +kernel
  have two : (gateway.answer around message).calls.length = 2 := by decide +kernel
  obtain ⟨failed, _⟩ := an_internal_error_is_a_failure_of_the_database gateway around message
    .select "pets" [] route rfl
  exact ⟨status, failed.mp status, two⟩

end Gateway

end Http

end TableGateway

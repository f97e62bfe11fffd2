import TableGateway.Http.Gateway

-- The laws of letting requests in. A request on a table passes two doors, the
-- list of open tables and then the authenticator, and the database hears of it
-- only after both. One that is turned away learns nothing but at which door.

namespace TableGateway

/-! ## The two doors -/

theorem AllowList.check_of_mem {list : AllowList} {table : String} (h : table ∈ list.tables) :
    list.check table = .ok () := by
  simp [check, allows, h]

theorem AllowList.check_of_not_mem {list : AllowList} {table : String} (h : table ∉ list.tables) :
    list.check table = .error .accessRestricted := by
  simp [check, allows, h]

namespace Authenticator

theorem tokenOf_error {header : Option String} {fault : Fault} (h : tokenOf header = .error fault) :
    ∃ reason, fault = .unauthorized reason := by
  unfold tokenOf at h
  split at h
  · cases h
    exact ⟨_, rfl⟩
  · split at h
    · cases h
      exact ⟨_, rfl⟩
    · cases h

theorem verify_error {kind : KeyKind} {now : Nat} {token : String} {content : List UInt8}
    {fault : Fault} (h : verify kind now token content = .error fault) :
    ∃ reason, fault = .unauthorized reason := by
  unfold verify at h
  cases hc : (keyOf kind content).bind fun key => Token.check key now token with
  | ok u =>
    rw [hc] at h
    cases h
  | error reason =>
    rw [hc] at h
    cases h
    exact ⟨_, rfl⟩

theorem verifyWith_error {kind : KeyKind} {now : Nat} {token : String}
    {content : Except Fault (List UInt8)} {fault : Fault}
    (h : verifyWith kind now token content = .error fault) :
    ∃ reason, fault = .unauthorized reason := by
  cases content with
  | error e =>
    cases h
    exact ⟨_, rfl⟩
  | ok bytes => exact verify_error h

/-- Whatever goes wrong with a token, a key or a key file, the sender is not known. -/
theorem authenticate_error {authenticator : Authenticator} {keyFile : Except String KeyFile}
    {now : Nat} {cache : KeyFile.Cache} {header : Option String} {fault : Fault}
    (h : (authenticator.authenticate keyFile now cache header).1 = .error fault) :
    ∃ reason, fault = .unauthorized reason := by
  cases authenticator with
  | disabled => cases h
  | enabled kind path =>
    simp only [authenticate] at h
    split at h
    · rename_i e he
      cases h
      exact tokenOf_error he
    · exact verifyWith_error h

end Authenticator

namespace Http.Gateway

/-- What the authenticator says of the sender of a message. -/
def verdict (gateway : Gateway) (around : Surroundings) (message : Message) : Except Fault Unit :=
  (gateway.authenticator.authenticate around.keyFile around.now gateway.cache
    (message.plainHeader? authorizationName)).1

/-- What is kept of the key file once the sender of a message is looked at. -/
def cacheAfter (gateway : Gateway) (around : Surroundings) (message : Message) : KeyFile.Cache :=
  (gateway.authenticator.authenticate around.keyFile around.now gateway.cache
    (message.plainHeader? authorizationName)).2

theorem guard_of_closed {gateway : Gateway} {table : String}
    (h : table ∉ gateway.access.tables) (around : Surroundings) (message : Message) :
    gateway.guard around message table = (.error .accessRestricted, gateway) := by
  simp [guard, AllowList.check_of_not_mem h]

theorem guard_of_open {gateway : Gateway} {table : String}
    (h : table ∈ gateway.access.tables) (around : Surroundings) (message : Message) :
    gateway.guard around message table =
      (gateway.verdict around message,
        { gateway with cache := gateway.cacheAfter around message }) := by
  simp [guard, AllowList.check_of_mem h, verdict, cacheAfter]

/-! ## Requests on tables -/

/-- What everyone hears who asks for a table that is not open. -/
def closedResponse : Response where
  status := 403
  headers := [Response.contentType]
  body := "\x7b\"message\":\"Access Restricted\",\"code\":\"access_restricted\"\x7d"

theorem ofFault_accessRestricted : Response.ofFault .accessRestricted = closedResponse := by
  rfl

section Answers

variable {gateway : Gateway} {around : Surroundings} {message : Message}
  {kind : StatementKind} {table : String} {body : List UInt8}

theorem answerTable_of_closed (h : table ∉ gateway.access.tables) :
    gateway.answerTable around message body kind table = ⟨closedResponse, [], gateway⟩ := by
  unfold answerTable
  rw [guard_of_closed h, ← ofFault_accessRestricted]

theorem answerTable_of_refused {fault : Fault} (h : table ∈ gateway.access.tables)
    (hv : gateway.verdict around message = .error fault) :
    gateway.answerTable around message body kind table =
      ⟨.ofFault fault, [], { gateway with cache := gateway.cacheAfter around message }⟩ := by
  unfold answerTable
  rw [guard_of_open h, hv]

/-- A request on a table whose body cannot be read gets no further than that. -/
theorem answer_of_unreadable {fault : BodyFault}
    (route : Route.ofMessage? message = some (.table kind table))
    (h : bodyFor kind message = .error fault) :
    gateway.answer around message = ⟨fault.response, [], gateway⟩ := by
  unfold answer
  rw [route]
  simp only [h]

theorem answer_of_readable (route : Route.ofMessage? message = some (.table kind table))
    (h : bodyFor kind message = .ok body) :
    gateway.answer around message = gateway.answerTable around message body kind table := by
  unfold answer
  rw [route]
  simp only [h]

/-- The database hears of a request only if both doors were open to it. -/
theorem answer_calls (route : Route.ofMessage? message = some (.table kind table))
    (h : (gateway.answer around message).calls ≠ []) :
    table ∈ gateway.access.tables ∧ gateway.verdict around message = .ok () := by
  cases hb : bodyFor kind message with
  | error fault => simp [answer_of_unreadable route hb] at h
  | ok body =>
    rw [answer_of_readable route hb] at h
    by_cases hopen : table ∈ gateway.access.tables
    · refine ⟨hopen, ?_⟩
      cases hv : gateway.verdict around message with
      | error fault => simp [answerTable_of_refused hopen hv] at h
      | ok u => rfl
    · simp [answerTable_of_closed hopen] at h

end Answers

/-! ## Bodies -/

/-- A body that is sent as it is, and is not too long, is always read. -/
theorem bodyFor_of_uncoded {message : Message} (coding : message.coding = .plain)
    (told : message.checkLength = .ok ()) (short : message.body.length ≤ Message.maxBody)
    (kind : StatementKind) : ∃ body, bodyFor kind message = .ok body := by
  have hread : ∃ body, message.decodedBody = .ok body := by
    have hsize : ¬ Message.maxBody < message.body.length := Nat.not_lt.mpr short
    unfold Message.decodedBody
    rw [told, coding]
    exact ⟨_, if_neg hsize⟩
  cases kind
  case insert | update | updateSingleEntry => exact hread
  case select | exactCount | delete => exact ⟨[], rfl⟩

/-! ## The laws -/

/-- A request on a table reaches the database only through both doors. One on a closed table
always hears the same, and changes nothing. One on an open table whose sender is not known
hears why, and what it asks for does not matter. A body that cannot be read is told before
either door, from the message alone. -/
theorem no_call_comes_before_the_doors (gateway : Gateway) (around : Surroundings)
    (message : Message) (kind : StatementKind) (table : String)
    (route : Route.ofMessage? message = some (.table kind table)) :
    ((gateway.answer around message).calls ≠ [] →
      table ∈ gateway.access.tables ∧ gateway.verdict around message = .ok ()) ∧
    (∀ body, bodyFor kind message = .ok body → table ∉ gateway.access.tables →
      gateway.answer around message = ⟨closedResponse, [], gateway⟩ ∧
      ∀ (gateway' : Gateway) (around' : Surroundings) (message' : Message) (kind' : StatementKind)
        (body' : List UInt8),
        Route.ofMessage? message' = some (.table kind' table) →
        bodyFor kind' message' = .ok body' → table ∉ gateway'.access.tables →
        (gateway'.answer around' message').response = (gateway.answer around message).response) ∧
    (∀ body fault, bodyFor kind message = .ok body → table ∈ gateway.access.tables →
      gateway.verdict around message = .error fault →
      (gateway.answer around message).response = .ofFault fault ∧
      (gateway.answer around message).response.status = 401 ∧
      (gateway.answer around message).calls = [] ∧
      ∀ (db : Backend) (past : List Call) (message' : Message) (kind' : StatementKind)
        (body' : List UInt8),
        Route.ofMessage? message' = some (.table kind' table) →
        bodyFor kind' message' = .ok body' →
        message'.plainHeader? authorizationName = message.plainHeader? authorizationName →
        gateway.answer { around with db, past } message' = gateway.answer around message) ∧
    (message.coding = .plain → message.checkLength = .ok () →
      message.body.length ≤ Message.maxBody → ∃ body, bodyFor kind message = .ok body) ∧
    (∀ fault, bodyFor kind message = .error fault →
      gateway.answer around message = ⟨fault.response, [], gateway⟩) := by
  refine ⟨answer_calls route, ?_, ?_, fun coding told short =>
    bodyFor_of_uncoded coding told short kind, fun fault h => answer_of_unreadable route h⟩
  · intro body hb hclosed
    have hanswer : gateway.answer around message = ⟨closedResponse, [], gateway⟩ := by
      rw [answer_of_readable route hb, answerTable_of_closed hclosed]
    refine ⟨hanswer, ?_⟩
    intro gateway' around' message' kind' body' route' hb' hclosed'
    rw [answer_of_readable route' hb', answerTable_of_closed hclosed', hanswer]
  · intro body fault hb hopen hv
    obtain ⟨reason, rfl⟩ := Authenticator.authenticate_error hv
    have hanswer := (answer_of_readable route hb).trans (answerTable_of_refused hopen hv)
    rw [hanswer]
    refine ⟨rfl, rfl, rfl, ?_⟩
    intro db past message' kind' body' route' hb' hheader
    have hv' : gateway.verdict { around with db, past } message' =
        .error (.unauthorized reason) := by
      rw [← hv]
      simp only [verdict, hheader]
    have hcache : gateway.cacheAfter { around with db, past } message' =
        gateway.cacheAfter around message := by
      simp only [cacheAfter, hheader]
    rw [answer_of_readable route' hb', answerTable_of_refused hopen hv', hcache]

/-- Three visitors: one at a closed table, one without a token at an open table, and one who
is let in. -/
theorem three_visitors_at_the_doors :
    let gateway : Gateway := ⟨⟨["test"]⟩, .enabled .sharedSecret "key", none⟩
    let trusting : Gateway := ⟨⟨["test"]⟩, .disabled, none⟩
    let around : Surroundings := { now := 0, db := .without "test" }
    gateway.answer around { method := "POST", target := "/secret?id=eq.1" } =
      ⟨closedResponse, [], gateway⟩ ∧
    (gateway.answer around { method := "PATCH", target := "/test" }).response.status = 401 ∧
    (gateway.answer around { method := "PATCH", target := "/test" }).calls = [] ∧
    (trusting.answer around { method := "DELETE", target := "/test" }).calls ≠ [] ∧
    "test" ∈ trusting.access.tables := by
  intro gateway trusting around
  have closed := no_call_comes_before_the_doors gateway around
    { method := "POST", target := "/secret?id=eq.1" } .insert "secret" rfl
  have refused := no_call_comes_before_the_doors gateway around
    { method := "PATCH", target := "/test" } .update "test" rfl
  have letIn := no_call_comes_before_the_doors trusting around
    { method := "DELETE", target := "/test" } .delete "test" rfl
  obtain ⟨body, hread⟩ := closed.2.2.2.1 rfl rfl (by decide)
  obtain ⟨body', hread'⟩ := refused.2.2.2.1 rfl rfl (by decide)
  obtain ⟨_, status, calls, _⟩ :=
    refused.2.2.1 body' (.unauthorized "missing auth header") hread' (by decide) rfl
  have heard : (trusting.answer around { method := "DELETE", target := "/test" }).calls ≠ [] := by
    have one :
        (trusting.answer around { method := "DELETE", target := "/test" }).calls.length = 1 := by
      rfl
    intro none
    rw [none] at one
    cases one
  exact ⟨(closed.2.1 body hread (by decide)).1, status, calls, heard, (letIn.1 heard).1⟩

/-- A body that cannot be read hides that the table is closed: here one that is said to be
packed and is not. So not every short request on a closed table hears that it is closed. -/
theorem a_broken_body_hides_the_closed_door :
    ¬ ∀ (gateway : Gateway) (around : Surroundings) (message : Message) (kind : StatementKind)
      (table : String),
      Route.ofMessage? message = some (.table kind table) →
      message.body.length ≤ Message.maxBody → table ∉ gateway.access.tables →
      (gateway.answer around message).response = closedResponse := by
  intro h
  have hclosed := h ⟨⟨["test"]⟩, .disabled, none⟩ { now := 0, db := .without "secret" }
    { method := "POST", target := "/secret", headers := [("content-encoding", "gzip")],
      body := Text.bytes "x" } .insert "secret" rfl (by decide) (by decide)
  have hstatus : (400 : Nat) = 403 := congrArg Response.status hclosed
  omega

end Http.Gateway

end TableGateway

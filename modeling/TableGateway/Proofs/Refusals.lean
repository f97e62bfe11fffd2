import TableGateway.Proofs.Failures

-- The laws of refused readings. A request for rows that is wrong in itself is refused before
-- anything is called, unless nothing but its wishes is wrong: those are looked at after the query.

namespace TableGateway.Http

/-! ## Refusals -/

/-- A response refuses a request for what is wrong with the request. -/
def Response.IsRefusal (response : Response) : Prop :=
  400 ≤ response.status ∧ response.status < 500

theorem not_isRefusal_of_rows (request : Request) (rows : List Json.Value) (total : String) :
    ¬ (rowsResponse request rows total).IsRefusal := by
  have hstatus : (rowsResponse request rows total).status = 200 := rfl
  intro refusal
  have hlow := refusal.1
  omega

theorem not_isRefusal_of_database (text : String) :
    ¬ (Response.ofFault (.database text)).IsRefusal := by
  have hstatus : (Response.ofFault (.database text)).status = 500 := rfl
  intro refusal
  have hhigh := refusal.2
  omega

theorem isRefusal_of_isClients {fault : Fault} (h : fault.IsClients) :
    (Response.ofFault fault).IsRefusal := by
  have hstatus : (Response.ofFault fault).status = fault.status := rfl
  unfold Response.IsRefusal
  rcases h with h | h <;> omega

/-! ## Readings that are refused -/

/-- A query was carried out, and then the wishes of the request turned out to make no sense. -/
structure WishesTooLate (db : Backend) (past : List Call) (request : Request) (table : String)
    (statement : Statement) (fault : Fault) : Prop where
  compiles : request.select table = .ok statement
  reads : ∃ rows, db.query past statement = .ok rows
  fails : Preference.ofRequest request = .error fault

section Readings

variable {db : Backend} {past : List Call} {request : Request} {table : String}

/-- A reading that is refused called nothing, or its wishes came too late. -/
theorem Reading.calls_of_refusal {outcome : Outcome} (h : Reading db past request table outcome)
    (refusal : (Gateway.responseOf outcome.result).IsRefusal) :
    outcome.calls = [] ∨
      ∃ statement fault, WishesTooLate db past request table statement fault := by
  cases h with
  | refused fails => exact .inl rfl
  | unwished compiles reads fails => exact .inr ⟨_, _, compiles, ⟨_, reads⟩, fails⟩
  | unread _ _ | uncounted _ _ _ _ _ _ => exact absurd refusal (not_isRefusal_of_database _)
  | read _ _ _ _ | counted _ _ _ _ _ _ => exact absurd refusal (not_isRefusal_of_rows _ _ _)

theorem WishesTooLate.select_eq {statement : Statement} {fault : Fault}
    (late : WishesTooLate db past request table statement fault) :
    select db past request table = .refused fault [.query statement] := by
  obtain ⟨rows, reads⟩ := late.reads
  unfold select
  simp only [late.compiles, reads, late.fails]

end Readings

/-! ## The law -/

theorem Route.kind_of_get {message : Message} {kind : StatementKind} {table : String}
    (asks : message.method = "GET") (route : ofMessage? message = some (.table kind table)) :
    kind = .select := by
  have hkind := kind?_of_table route
  rw [asks, kind?, if_pos rfl] at hkind
  exact (Option.some.inj hkind).symm

namespace Gateway

variable {gateway : Gateway} {around : Surroundings} {message : Message}

/-- A request for rows was let in, and its query was carried out before its wishes were looked at
and found to make no sense. -/
structure RefusesTooLate (gateway : Gateway) (around : Surroundings) (message : Message)
    (table : String) (statement : Statement) (fault : Fault) : Prop where
  route : Route.ofMessage? message = some (.table .select table)
  letIn : gateway.LetsIn around message .select table []
  late : WishesTooLate around.db around.past (message.request []) table statement fault

theorem RefusesTooLate.answer_eq {table : String} {statement : Statement} {fault : Fault}
    (h : gateway.RefusesTooLate around message table statement fault) :
    (gateway.answer around message).response = .ofFault fault ∧
      (gateway.answer around message).calls = [.query statement] := by
  obtain ⟨after, heq⟩ := answer_of_letsIn h.route h.letIn
  have hselect : onTable around.db around.past (message.request []) .select table =
      .refused fault [.query statement] := h.late.select_eq
  rw [heq, hselect]
  exact ⟨rfl, rfl⟩

theorem calls_of_refused (asks : message.method = "GET")
    (refusal : (gateway.answer around message).response.IsRefusal) :
    (gateway.answer around message).calls = [] ∨
      ∃ table statement fault, gateway.RefusesTooLate around message table statement fault := by
  cases hroute : Route.ofMessage? message with
  | none =>
    rw [answer_of_nowhere hroute]
    exact .inl rfl
  | some route =>
    cases route with
    | health =>
      rw [answer_of_health hroute]
      exact .inl rfl
    | table kind table =>
      obtain rfl := Route.kind_of_get asks hroute
      have hbody : bodyFor .select message = .ok [] := rfl
      rcases answer_cases gateway around hroute hbody with
        ⟨fault, after, _, heq⟩ | ⟨letIn, after, heq⟩
      · rw [heq]
        exact .inl rfl
      · rw [heq, answered_response] at refusal
        rw [heq, answered_calls]
        rcases (reading_of_onTable _ _ _ _).calls_of_refusal refusal with
          hnone | ⟨statement, fault, late⟩
        · exact .inl hnone
        · exact .inr ⟨table, statement, fault, hroute, letIn, late⟩

/-- A request for rows that is refused for what is wrong with it has called nothing, unless its
wishes alone make no sense. Those are looked at once the query was carried out, which was then the
only call, and no rows are counted. -/
theorem only_wrong_wishes_are_refused_after_the_query (gateway : Gateway) (around : Surroundings)
    (message : Message) (asks : message.method = "GET") :
    let answer := gateway.answer around message
    (answer.response.IsRefusal ∧ answer.calls ≠ [] ↔
      ∃ table statement fault, gateway.RefusesTooLate around message table statement fault) ∧
    (∀ table statement fault, gateway.RefusesTooLate around message table statement fault →
      answer.response = .ofFault fault ∧ answer.calls = [.query statement]) ∧
    (answer.response.IsRefusal → ∀ statement, .count statement ∉ answer.calls) ∧
    (answer.response.IsRefusal →
      (∃ preference, Preference.ofRequest (message.request []) = .ok preference) →
      answer.calls = []) := by
  intro answer
  refine ⟨⟨fun ⟨refusal, called⟩ => ?_, fun ⟨table, statement, fault, late⟩ => ?_⟩,
    fun table statement fault late => late.answer_eq, fun refusal statement => ?_,
    fun refusal ⟨preference, wishes⟩ => ?_⟩
  · exact (calls_of_refused asks refusal).resolve_left called
  · obtain ⟨hresponse, hcalls⟩ := late.answer_eq
    have clients := Preference.blames_ofRequest _ _ late.late.fails
    change (gateway.answer around message).response.IsRefusal ∧ (gateway.answer _ _).calls ≠ []
    rw [hresponse, hcalls]
    exact ⟨isRefusal_of_isClients clients, List.cons_ne_nil _ _⟩
  · rcases calls_of_refused asks refusal with hnone | ⟨table, query, fault, late⟩
    · rw [hnone]
      exact List.not_mem_nil
    · rw [late.answer_eq.2]
      simp
  · rcases calls_of_refused asks refusal with hnone | ⟨table, query, fault, late⟩
    · exact hnone
    · cases wishes.symm.trans late.late.fails

/-- A planned count is refused, and its query was carried out. -/
theorem a_planned_count_is_refused_after_its_query :
    let gateway : Gateway := ⟨⟨["test"]⟩, .disabled, none⟩
    let around : Surroundings :=
      { now := 0, db := { query := fun _ _ => .ok [], execute := fun _ _ => .ok 0,
                          count := fun _ _ => .ok 3, tableColumns := fun _ _ => .ok [] } }
    let message : Message :=
      { method := "GET", target := "/test", headers := [("prefer", "count=planned")] }
    message.method = "GET" ∧ (gateway.answer around message).calls.length = 1 ∧
      ∃ table statement fault, gateway.RefusesTooLate around message table statement fault := by
  intro gateway around message
  have one : (gateway.answer around message).calls.length = 1 := by decide +kernel
  have status : (gateway.answer around message).response.status = 400 := by decide +kernel
  obtain ⟨late, _⟩ := only_wrong_wishes_are_refused_after_the_query gateway around message rfl
  refine ⟨rfl, one, late.mp ⟨?_, List.ne_nil_of_length_pos (by omega)⟩⟩
  unfold Response.IsRefusal
  omega

/-- So not every request for rows that is refused has run nothing. -/
theorem not_every_refused_reading_runs_nothing :
    ¬ ∀ (gateway : Gateway) (around : Surroundings) (message : Message),
      message.method = "GET" → (gateway.answer around message).response.IsRefusal →
      ∀ statement, .query statement ∉ (gateway.answer around message).calls ∧
        .count statement ∉ (gateway.answer around message).calls := by
  intro always
  let gateway : Gateway := ⟨⟨["test"]⟩, .disabled, none⟩
  let around : Surroundings :=
    { now := 0, db := { query := fun _ _ => .ok [], execute := fun _ _ => .ok 0,
                        count := fun _ _ => .ok 3, tableColumns := fun _ _ => .ok [] } }
  let message : Message :=
    { method := "GET", target := "/test", headers := [("prefer", "count=planned")] }
  have one : (gateway.answer around message).calls.length = 1 := by decide +kernel
  have refusal : (gateway.answer around message).response.IsRefusal := by
    have status : (gateway.answer around message).response.status = 400 := by decide +kernel
    unfold Response.IsRefusal
    omega
  rcases calls_of_refused rfl refusal with hnone | ⟨table, statement, fault, late⟩
  · rw [hnone] at one
    cases one
  · have hnot := (always gateway around message rfl refusal statement).1
    rw [late.answer_eq.2] at hnot
    exact hnot (List.mem_singleton_self _)

end Gateway

end TableGateway.Http

import TableGateway.Proofs.Numerals
import TableGateway.Proofs.Outcomes

-- The laws of pages. The page that a statement asks for is the one that the response names, and
-- the total beside it counts the rows of the same condition.

namespace TableGateway

open Fallible

/-! ## Pages that requests ask for -/

namespace Page

theorem saturated_eq {n : Int} (low : Text.minInt64 ≤ n) (high : n ≤ Text.maxInt64) :
    Text.saturated n = n := by
  unfold Text.saturated
  rw [if_neg (Int.not_lt.mpr high), if_neg (Int.not_lt.mpr low)]

theorem number_nonneg {params : Params} {key : String} {n : Int}
    (h : number params key = .ok (some n)) : 0 ≤ n := by
  unfold number at h
  split at h
  · cases h
  · split at h
    · rename_i m hm
      cases h
      simpa using (Option.filter_eq_some_iff.mp hm).2
    · cases h

/-- A page comes from a range of two numbers, or from one number for a range that is open. -/
theorem range?_eq_some_iff {range : String} {page : Page} :
    range? range = some page ↔ ∃ before after first,
      Text.cutAt '-' range = some (before, after) ∧ Text.int64? (Text.trim before) = some first ∧
      (Text.trim after = "" ∧ page = ⟨noLimit, first⟩ ∨
        Text.trim after ≠ "" ∧ ∃ last, Text.int64? (Text.trim after) = some last ∧ first ≤ last ∧
          last - first + 1 ≤ Text.maxInt64 ∧ page = ⟨last - first + 1, first⟩) := by
  unfold range?
  simp only [Option.bind_eq_bind, Option.bind_eq_some_iff]
  constructor
  · rintro ⟨⟨before, after⟩, hcut, first, hfirst, h⟩
    refine ⟨before, after, first, hcut, hfirst, ?_⟩
    simp only at h
    split at h
    · rename_i hopen
      cases h
      exact .inl ⟨hopen, rfl⟩
    · rename_i hclosed
      obtain ⟨last, hlast, h⟩ := Option.bind_eq_some_iff.mp h
      split at h
      · cases h
      · rename_i hbounds
        cases h
        exact .inr ⟨hclosed, last, hlast, by omega, by omega, rfl⟩
  · rintro ⟨before, after, first, hcut, hfirst, ⟨hopen, rfl⟩ |
      ⟨hclosed, last, hlast, horder, hbound, rfl⟩⟩
    · exact ⟨(before, after), hcut, first, hfirst, if_pos hopen⟩
    · refine ⟨(before, after), hcut, first, hfirst, ?_⟩
      simp only
      rw [if_neg hclosed, hlast, Option.bind_some, if_neg (by omega)]

theorem ofRange_eq_ok {range : String} {page : Page} :
    ofRange range = .ok page ↔ range? range = some page := by
  unfold ofRange
  cases range? range with
  | none => simp
  | some page' => simp

/-- A request asks for a page in its header, or else in its parameters. -/
theorem ofRequest_eq_ok_some {request : Request} {page : Page} :
    ofRequest request = .ok (some page) ↔
      (∃ range, request.header? Request.rangeName = some range ∧ ofRange range = .ok page) ∨
        request.header? Request.rangeName = none ∧ ofParams request.params = .ok (some page) := by
  unfold ofRequest
  cases request.header? Request.rangeName with
  | none => simp
  | some range => simp [map_eq_ok]

/-- A limit and an offset are not negative, and their sum fits sixty-four bits. -/
theorem sum_of_params {params : Params} {page : Page} (h : ofParams params = .ok (some page)) :
    0 ≤ page.limit ∧ 0 ≤ page.offset ∧ page.offset + page.limit ≤ Text.maxInt64 := by
  unfold ofParams at h
  split at h
  · cases h
  · cases h
  · rename_i limit hlimit
    split at h
    · cases h
    · rename_i offset hoffset
      obtain ⟨page', hpage, heq⟩ := map_eq_ok.mp h
      cases heq
      have hlow : 0 ≤ offset.getD 0 := by
        cases offset with
        | none => exact Int.le_refl 0
        | some n => exact number_nonneg hoffset
      unfold ofLimit at hpage
      split at hpage
      · cases hpage
      · rename_i hsum
        cases hpage
        exact ⟨number_nonneg hlimit, hlow, Int.not_lt.mp hsum⟩

/-- A page begins at a row that there may be, and it is open or ends within sixty-four bits. -/
structure Fits (page : Page) : Prop where
  offset_nonneg : 0 ≤ page.offset
  offset_le : page.offset ≤ Text.maxInt64
  limit_le : page.limit ≤ Text.maxInt64
  ends : page.limit = noLimit ∨ 0 ≤ page.limit ∧ page.offset + page.limit - 1 ≤ Text.maxInt64

theorem fits_of_range {range : String} {page : Page} (h : range? range = some page) :
    page.Fits := by
  obtain ⟨before, after, first, hcut, hfirst, hpage⟩ := range?_eq_some_iff.mp h
  -- What stands before the first hyphen has no hyphen, and so no sign that makes it negative.
  have hfree : '-' ∉ (Text.trim before).toList := fun hmem =>
    (Text.cutAt_eq_some.mp hcut).2 (Text.mem_of_mem_trim hmem)
  have hlow : 0 ≤ first := Text.int64?_nonneg hfirst hfree
  have hhigh := (Text.int64?_bounds hfirst).2
  rcases hpage with ⟨_, rfl⟩ | ⟨_, last, hlast, horder, hbound, rfl⟩
  · exact ⟨hlow, hhigh, (by decide : noLimit ≤ Text.maxInt64), .inl rfl⟩
  · have hend := (Text.int64?_bounds hlast).2
    refine ⟨hlow, hhigh, hbound, .inr ⟨?_, ?_⟩⟩ <;> simp only <;> omega

theorem fits_of_params {params : Params} {page : Page} (h : ofParams params = .ok (some page)) :
    page.Fits := by
  obtain ⟨hlimit, hoffset, hsum⟩ := sum_of_params h
  exact ⟨hoffset, by omega, by omega, .inr ⟨hlimit, by omega⟩⟩

theorem fits_of_request {request : Request} {page : Page}
    (h : ofRequest request = .ok (some page)) : page.Fits := by
  rcases ofRequest_eq_ok_some.mp h with ⟨range, _, hrange⟩ | ⟨_, hparams⟩
  · exact fits_of_range (ofRange_eq_ok.mp hrange)
  · exact fits_of_params hparams

namespace Fits

variable {page : Page}

theorem limit_ge (h : page.Fits) : noLimit ≤ page.limit := by
  rcases h.ends with heq | ⟨hlimit, _⟩
  · exact Int.le_of_eq heq.symm
  · exact Int.le_trans (by decide) hlimit

theorem limit_nonneg (h : page.Fits) (bounded : ¬ page.limit < 0) :
    0 ≤ page.limit ∧ page.offset + page.limit - 1 ≤ Text.maxInt64 := by
  rcases h.ends with heq | hends
  · rw [heq] at bounded
    exact absurd (by decide) bounded
  · exact hends

/-- The last row of a bounded page is told as it is. -/
theorem last_eq (h : page.Fits) (bounded : ¬ page.limit < 0) :
    page.last = page.offset + page.limit - 1 := by
  obtain ⟨hlimit, hend⟩ := h.limit_nonneg bounded
  have hoffset := h.offset_nonneg
  unfold last
  rw [saturated_eq (by unfold Text.minInt64; omega) (by omega)]
  omega

end Fits

/-- The rows of a page within a total: the first one, the last one unless the page is open, and
the total. -/
def rangeText (page : Page) (total : String) : String :=
  numeral page.offset ++ "-" ++
    (if page.limit < 0 then "" else numeral (page.offset + page.limit - 1)) ++ "/" ++ total

theorem Fits.contentRange_eq {page : Page} (h : page.Fits) (total : String) :
    page.contentRange total = page.rangeText total := by
  unfold contentRange rangeText isUnbounded
  by_cases hopen : page.limit < 0
  · simp [hopen, String.append_assoc]
  · simp [hopen, h.last_eq hopen]

theorem contentRangeOf_eq {request : Request} {page : Option Page}
    (h : ofRequest request = .ok page) (total : String) :
    contentRangeOf? request total = page.map fun p => p.rangeText total := by
  unfold contentRangeOf?
  rw [h]
  cases page with
  | none => rfl
  | some page => exact congrArg some ((fits_of_request h).contentRange_eq total)

end Page

/-- The part of a statement that asks for a page: none, or its text after a blank. -/
theorem Request.pageText_eq (page : Option Page) :
    pageText page = (page.map fun p => " limit " ++ Page.numeral p.limit ++
      (if p.offset = 0 then "" else " offset " ++ Page.numeral p.offset)).getD "" := by
  cases page with
  | none => rfl
  | some page =>
    change " " ++ page.sql = " limit " ++ _ ++ _
    unfold Page.sql
    split <;> simp [← String.append_assoc]

/-! ## Responses with a page -/

namespace Http

/-- The values of the headers of a response that have a name. -/
def Response.headerValues (response : Response) (name : String) : List String :=
  (response.headers.filter fun entry => entry.1 == name).map Prod.snd

theorem range_of_rows {request : Request} {page : Option Page}
    (h : Page.ofRequest request = .ok page) (rows : List Json.Value) (total : String) :
    (rowsResponse request rows total).headerValues "content-range" =
      (page.map fun p => p.rangeText total).toList := by
  unfold rowsResponse Response.headerValues
  rw [Page.contentRangeOf_eq h]
  cases page <;> rfl

/-- The statement that counts the rows of a condition, whatever page of them was read. -/
def counting (table : String) (clauses : List Clause) : Statement :=
  ⟨"select count(1) from " ++ table ++ Statement.whereText clauses, Statement.whereValues clauses⟩

/-- A response shows a page: the rows that the query gave, the range that the query asked for,
and beside it the number of all rows of its condition, where the client wished for that. Nothing
else was called. -/
structure ShowsPage (db : Backend) (past : List Call) (request : Request) (table : String)
    (response : Response) (calls : List Call) (clauses : List Clause) (items : List OrderItem)
    (page : Option Page) (rows : List Json.Value) (total : String) : Prop where
  condition : request.clauses = .ok clauses
  order : request.orderItems = .ok items
  paged : Page.ofRequest request = .ok page
  query : ∃ statement,
    statement = ⟨"select " ++ Text.joined ", " request.resultColumns ++ " from " ++ table ++
        Statement.whereText clauses ++ Request.orderText items ++
        (page.map fun p => " limit " ++ Page.numeral p.limit ++
          (if p.offset = 0 then "" else " offset " ++ Page.numeral p.offset)).getD "",
      Statement.whereValues clauses⟩ ∧
    request.select table = .ok statement ∧ db.query past statement = .ok rows ∧
    ∃ preference, Preference.ofRequest request = .ok preference ∧
      (preference.count = .none ∧ calls = [.query statement] ∧ total = "*" ∨
        preference.count = .exact ∧ calls = [.query statement, .count (counting table clauses)] ∧
        ∃ number, db.count (past ++ [.query statement]) (counting table clauses) = .ok number ∧
          total = Page.numeral number)
  range : response.headerValues "content-range" = (page.map fun p => p.rangeText total).toList
  body : response.body = (Json.Value.array rows).text

theorem counting_eq {request : Request} {table : String} {clauses : List Clause}
    {statement : Statement} (h : request.clauses = .ok clauses)
    (countable : request.exactCount table = .ok statement) :
    statement = counting table clauses := by
  obtain ⟨clauses', hclauses', rfl⟩ := Request.exactCount_eq_ok.mp countable
  cases h.symm.trans hclauses'
  rfl

theorem Fault.status_ne_ok (fault : Fault) : fault.status ≠ 200 := by
  have := Fault.status_ge fault
  omega

/-- A reading that goes well shows a page. -/
theorem Reading.showsPage {db : Backend} {past : List Call} {request : Request} {table : String}
    {outcome : Outcome} (h : Reading db past request table outcome)
    (ok : (Gateway.responseOf outcome.result).status = 200) :
    ∃ clauses items page rows total, ShowsPage db past request table
      (Gateway.responseOf outcome.result) outcome.calls clauses items page rows total := by
  cases h with
  | refused _ | unread _ _ | unwished _ _ _ | uncounted _ _ _ _ _ _ =>
    rw [status_of_refused] at ok
    exact absurd ok (Fault.status_ne_ok _)
  | @read statement rows preference compiles reads wishes wish =>
    obtain ⟨clauses, items, page, hclauses, hitems, hpage, htext⟩ :=
      Request.select_eq_ok.mp compiles
    rw [Request.pageText_eq] at htext
    exact ⟨clauses, items, page, rows, "*", hclauses, hitems, hpage,
      ⟨statement, htext, compiles, reads, preference, wishes, .inl ⟨wish, rfl, rfl⟩⟩,
      range_of_rows hpage rows _, rfl⟩
  | @counted statement counted rows preference number compiles reads wishes wish countable counts =>
    obtain ⟨clauses, items, page, hclauses, hitems, hpage, htext⟩ :=
      Request.select_eq_ok.mp compiles
    rw [Request.pageText_eq] at htext
    obtain rfl := counting_eq hclauses countable
    exact ⟨clauses, items, page, rows, Page.numeral number, hclauses, hitems, hpage,
      ⟨statement, htext, compiles, reads, preference, wishes,
        .inr ⟨wish, rfl, number, counts, rfl⟩⟩,
      range_of_rows hpage rows _, rfl⟩

/-! ## The law -/

/-- A response of 200 to a request for rows shows a page: what was called is one query and, where
the client wished for the number of all rows, one count after it with the condition and the
values of the query. There is a range in the response exactly where the request asks for a page.
The query then ends in that page, and the range tells its first row, its last row unless it is
open, and the total. Once the query makes sense, so do the count and the range. -/
theorem Gateway.a_page_and_its_range_agree (gateway : Gateway) (around : Surroundings)
    (message : Message) (table : String)
    (route : Route.ofMessage? message = some (.table .select table)) :
    let answer := gateway.answer around message
    let request := message.request []
    (answer.response.status = 200 → ∃ clauses items page rows total,
      ShowsPage around.db around.past request table answer.response answer.calls clauses items page
        rows total) ∧
    ∀ statement, request.select table = .ok statement → ∃ clauses page,
      request.clauses = .ok clauses ∧ request.exactCount table = .ok (counting table clauses) ∧
      statement.values = (counting table clauses).values ∧ Page.ofRequest request = .ok page ∧
      ∀ total, Page.contentRangeOf? request total = page.map fun p => p.rangeText total := by
  intro answer request
  refine ⟨fun ok => ?_, fun statement compiles => ?_⟩
  · rcases answer_cases gateway around route rfl with
      ⟨fault, after, door, heq⟩ | ⟨_, after, heq⟩
    · have hstatus : (Response.ofFault fault).status = 200 := by simpa only [answer, heq] using ok
      exact absurd hstatus (Fault.status_ne_ok fault)
    · have hreading : Reading around.db around.past request table
          (onTable around.db around.past request .select table) :=
        reading_of_select around.db around.past request table
      change answer = _ at heq
      rw [heq, answered_response] at ok
      rw [heq, answered_response, answered_calls]
      exact hreading.showsPage ok
  · obtain ⟨clauses, _, page, hclauses, _, hpage, rfl⟩ := Request.select_eq_ok.mp compiles
    exact ⟨clauses, page, hclauses, Request.exactCount_of_clauses hclauses table, rfl, hpage,
      Page.contentRangeOf_eq hpage⟩

/-- A page of two rows after the first, out of three. -/
theorem two_of_three_rows :
    let gateway : Gateway := ⟨⟨["pets"]⟩, .disabled, none⟩
    let around : Surroundings :=
      { now := 0, db := { query := fun _ _ => .ok [.null, .null], execute := fun _ _ => .ok 0,
                          count := fun _ _ => .ok 3, tableColumns := fun _ _ => .ok [] } }
    let message : Message :=
      { method := "GET", target := "/pets?age=gt.3&limit=2&offset=1"
        headers := [("prefer", "count=exact")] }
    (gateway.answer around message).response.headerValues "content-range" = ["1-2/3"] ∧
      ∃ clauses items page rows total, ShowsPage around.db around.past (message.request []) "pets"
        (gateway.answer around message).response (gateway.answer around message).calls clauses
        items page rows total := by
  intro gateway around message
  have route : Route.ofMessage? message = some (.table .select "pets") := by decide +kernel
  have ok : (gateway.answer around message).response.status = 200 := by decide +kernel
  have range :
      (gateway.answer around message).response.headerValues "content-range" = ["1-2/3"] := by
    decide +kernel
  obtain ⟨shows, _⟩ := Gateway.a_page_and_its_range_agree gateway around message "pets" route
  exact ⟨range, shows ok⟩

end Http

end TableGateway

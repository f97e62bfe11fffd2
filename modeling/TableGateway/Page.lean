import TableGateway.Fault
import TableGateway.Filter
import TableGateway.Json.Number
import TableGateway.Request
import TableGateway.Text.Blank
import TableGateway.Text.Numeral

-- Pages: which rows of a result are asked for. A row range in the header comes
-- before the limit and the offset among the parameters.

namespace TableGateway

/-- A page: how many rows, after how many others. A negative limit has no
bound. -/
structure Page where
  limit : Int
  offset : Int
deriving Repr, DecidableEq

namespace Page

/-! ## Writing a page -/

/-- The limit of a page with no bound. -/
def noLimit : Int := -1

/-- The page has no bound. -/
def isUnbounded (page : Page) : Bool :=
  page.limit < 0

/-- A whole number in decimal. -/
def numeral (n : Int) : String :=
  (Json.Number.whole n).text

/-- The page in a statement. -/
def sql (page : Page) : String :=
  if page.offset = 0 then "limit " ++ numeral page.limit
  else "limit " ++ numeral page.limit ++ " offset " ++ numeral page.offset

/-- The last row of a bounded page. -/
def last (page : Page) : Int :=
  Text.saturated (page.offset + (page.limit - 1))

/-- The rows of the page within all rows, as a response header gives them. -/
def contentRange (page : Page) (total : String) : String :=
  if page.isUnbounded then numeral page.offset ++ "-/" ++ total
  else numeral page.offset ++ "-" ++ numeral page.last ++ "/" ++ total

/-! ## Reading a page -/

/-- A range of rows: the first one, and the last one unless the range is open. -/
def range? (range : String) : Option Page := do
  let (start, stop) ← Text.cutAt '-' range
  let first ← Text.int64? (Text.trim start)
  let stop := Text.trim stop
  if stop = "" then some ⟨noLimit, first⟩
  else
    let last ← Text.int64? stop
    let limit := last - first + 1
    if last < first ∨ limit > Text.maxInt64 then none else some ⟨limit, first⟩

/-- The page of a row range. -/
def ofRange (range : String) : Except Fault Page :=
  match range? range with
  | some page => .ok page
  | none => .error (.badRequest ("invalid range header: " ++ range))

/-- A number among the parameters that may not be negative. An empty one is not
there. -/
def number (params : Params) (key : String) : Except Fault (Option Int) :=
  match params.given? key with
  | none => .ok none
  | some raw =>
    match (Text.int64? raw).filter (0 ≤ ·) with
    | some n => .ok (some n)
    | none => .error (.badRequest ("invalid " ++ key ++ ": " ++ raw))

/-- The page of a limit and an offset, whose sum has to fit. -/
def ofLimit (limit offset : Int) : Except Fault Page :=
  if offset + limit > Text.maxInt64 then
    .error (.badRequest
      ("invalid range: offset " ++ numeral offset ++ " with limit " ++ numeral limit))
  else .ok ⟨limit, offset⟩

/-- The page of the parameters. Without a limit there is none, and the offset
is not looked at. -/
def ofParams (params : Params) : Except Fault (Option Page) :=
  match number params limitKey with
  | .error e => .error e
  | .ok none => .ok none
  | .ok (some limit) =>
    match number params offsetKey with
    | .error e => .error e
    | .ok offset => (ofLimit limit (offset.getD 0)).map some

/-- The page of a request, if it asks for one. -/
def ofRequest (request : Request) : Except Fault (Option Page) :=
  match request.header? Request.rangeName with
  | some range => (ofRange range).map some
  | none => ofParams request.params

/-- The content range of a response, if the request asks for a page. -/
def contentRangeOf? (request : Request) (total : String) : Option String :=
  match ofRequest request with
  | .ok (some page) => some (page.contentRange total)
  | _ => none

end Page

end TableGateway
